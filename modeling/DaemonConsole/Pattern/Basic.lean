/-
Regular expressions.

An expression is a choice between branches, and a branch is a row of parts. A part is a character, a
class of characters, a place between characters, a repetition, a group with branches of its own, or
a setting that changes how the rest of its group is read.

* `Pattern`: an expression;
* `Pattern.Mode`: how an expression is read at a place, as settings leave it;
* `Part.fits`: whether a part means something in a mode;
* `Pattern.depth`: how many levels an expression has;
* `Pattern.groupNames`: the names that its groups have.
-/
namespace DaemonConsole

namespace Pattern

/-! ### Settings -/

/-- What a setting switches on or off. -/
inductive Flag where
  /-- Small and capital letters are the same. -/
  | ignoreCase
  /-- The anchors mean the ends of lines too. -/
  | manyLines
  /-- The dot means line ends too. -/
  | dotAll
  /-- Repetitions are as short as they can be. -/
  | short
  /-- Characters are those of Unicode, not bytes. -/
  | unicode
  /-- A carriage return ends a line too. -/
  | carriageReturns
  /-- Blanks and comments are passed over. -/
  | spaced
  deriving DecidableEq, Repr

/-- The flag with a letter. -/
def Flag.ofChar? : Char → Option Flag
  | 'i' => some ignoreCase
  | 'm' => some manyLines
  | 's' => some dotAll
  | 'U' => some short
  | 'u' => some unicode
  | 'R' => some carriageReturns
  | 'x' => some spaced
  | _ => none

/-- Flags with their new states. -/
abbrev Settings := List (Flag × Bool)

/-- How an expression is read at a place. -/
structure Mode where
  spaced : Bool := false
  unicode : Bool := true
  deriving DecidableEq, Repr

/-- The mode behind a setting. -/
def Mode.after (m : Mode) (s : Settings) : Mode :=
  { spaced := (s.lookup .spaced).getD m.spaced, unicode := (s.lookup .unicode).getD m.unicode }

/-! ### Parts -/

/-- A character that stands for itself. -/
structure Literal where
  char : Char
  /-- It is written as a byte, with two hexadecimal digits. -/
  isByte : Bool := false
  deriving DecidableEq, Repr

/-- Whether a character is one of ASCII. -/
def Literal.isAscii (l : Literal) : Bool :=
  l.char.toNat < 0x80

/-- A class of characters, or an item of one. -/
inductive Class where
  | literal (l : Literal)
  | range (first last : Literal)
  /-- The digits, the blanks or the characters of words, by a letter behind a backslash. -/
  | shorthand (negated : Bool)
  /-- A class of ASCII, by its name. -/
  | named (negated : Bool)
  /-- A category of Unicode, by its letter. -/
  | category
  /-- Items in brackets. Where operators combine rows of items, each one takes all before it and the
  row behind it. -/
  | bracketed (negated : Bool) (rows : List (List Class))
  deriving Repr

/-- A part of a branch. -/
inductive Part where
  | settings (s : Settings)
  | literal (l : Literal)
  /-- Any character. -/
  | dot
  /-- The start or the end of the text or of a line. -/
  | anchor
  /-- The edge of a word, or no such edge. -/
  | wordEdge
  | oneOf (c : Class)
  | repeated (part : Part)
  | group (name : Option String) (branches : List (List Part))
  deriving Repr

/-- Whether a class means something in a mode, if what it holds does. Without Unicode a class holds
characters of ASCII only. -/
def Class.fits (m : Mode) : Class → Bool
  | literal l => m.unicode || l.isAscii
  | range first last => m.unicode || (first.isAscii && last.isAscii)
  | shorthand negated => m.unicode || !negated
  | named negated => m.unicode || !negated
  | category => m.unicode
  | bracketed negated _ => m.unicode || !negated

/-- Whether a part means something in a mode, if what it holds does. A text is looked at byte by
byte, and a match may not cut a character in two: so without Unicode no part may match a byte beyond
ASCII, and with it no part may ask for the edges of words, which single bytes do not tell. -/
def Part.fits (m : Mode) : Part → Bool
  | literal l => m.unicode || !l.isByte || l.isAscii
  | dot => m.unicode
  | wordEdge => !m.unicode
  | oneOf c => c.fits m
  | _ => true

/-! ### Levels -/

/-- The levels of a row from those of its items; a row of several items is a level of its own. -/
def rowDepth : List Nat → Nat
  | [] => 0
  | [depth] => depth
  | depths => (depths.foldl max 0) + 1

/-- The levels of rows that operators combine from the left on; each operator is a level. -/
def combinedDepth : List Nat → Nat
  | [] => 0
  | depth :: depths => depths.foldl (fun sofar depth => max sofar depth + 1) depth

mutual

/-- The levels of a class. -/
def Class.depth : Class → Nat
  | .bracketed _ rows => combinedDepth (depthsOfRows rows) + 1
  | _ => 0

/-- The levels of each row. -/
def depthsOfRows : List (List Class) → List Nat
  | [] => []
  | row :: rows => rowDepth (depthsOfItems row) :: depthsOfRows rows

/-- The levels of each item. -/
def depthsOfItems : List Class → List Nat
  | [] => []
  | item :: items => item.depth :: depthsOfItems items

end

mutual

/-- The levels of a part. -/
def Part.depth : Part → Nat
  | .oneOf c => c.depth
  | .repeated part => part.depth + 1
  | .group _ branches => rowDepth (depthsOfBranches branches) + 1
  | _ => 0

/-- The levels of each branch. -/
def depthsOfBranches : List (List Part) → List Nat
  | [] => []
  | branch :: branches => rowDepth (depthsOfParts branch) :: depthsOfBranches branches

/-- The levels of each part. -/
def depthsOfParts : List Part → List Nat
  | [] => []
  | part :: parts => part.depth :: depthsOfParts parts

end

/-! ### Names -/

mutual

/-- The names of the groups in a part. -/
def Part.groupNames : Part → List String
  | .repeated part => part.groupNames
  | .group name branches => name.toList ++ namesInBranches branches
  | _ => []

/-- The names of the groups in branches. -/
def namesInBranches : List (List Part) → List String
  | [] => []
  | branch :: branches => namesInParts branch ++ namesInBranches branches

/-- The names of the groups in a row of parts. -/
def namesInParts : List Part → List String
  | [] => []
  | part :: parts => part.groupNames ++ namesInParts parts

end

end Pattern

/-- A regular expression. -/
structure Pattern where
  branches : List (List Pattern.Part)
  deriving Repr

namespace Pattern

/-- How many levels an expression has. -/
def depth (p : Pattern) : Nat :=
  rowDepth (depthsOfBranches p.branches)

/-- The names of the groups, from left to right. -/
def groupNames (p : Pattern) : List String :=
  namesInBranches p.branches

end Pattern

end DaemonConsole
