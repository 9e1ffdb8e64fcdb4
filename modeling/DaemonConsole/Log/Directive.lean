/-
Directives: what a filter says about some of the entries.

A directive is a level alone, a target alone, or a target, a bracketed part or both, with or without
a level behind an equals sign. The bracketed part names a span, or a field in braces, or both; a
field may have a number or a regular expression for its value. Without a level everything passes
that the directive is about.

* `Log.Layout.ofChars?`: where the parts of a directive lie;
* `Log.Directive.parse?`: a directive from its text;
* `Log.Directive.applies`: whether a directive is about an entry;
* `Log.Directive.yieldsTo`: which of two directives about one entry decides.
-/
import DaemonConsole.Decimal.Spelling
import DaemonConsole.Log.Entry
import DaemonConsole.Pattern.Reader
import DaemonConsole.Text.Alphanumeric
import DaemonConsole.Text.Blank
import DaemonConsole.Text.Bytes
import DaemonConsole.Text.Lowercase
import DaemonConsole.Text.Numeral

namespace DaemonConsole.Log

/-! ### Layout -/

/-- Where the parts of a directive with marks lie, in bytes from its start. -/
structure Layout where
  /-- Where the target ends. -/
  target : Nat
  /-- A span is named between brackets. -/
  named : Bool := false
  /-- Where the field in braces starts and ends. -/
  field : Option (Nat × Nat) := none
  /-- Where the level behind the equals sign starts. -/
  level : Option Nat := none
  deriving DecidableEq, Repr

namespace Layout

/-- Whether a character belongs to a target. -/
def inTarget (c : Char) : Bool := c ≠ '=' && c ≠ '['

/-- Whether a character belongs to the name of a span. -/
def inSpan (c : Char) : Bool := c ≠ ']' && c ≠ '\x7b'

/-- Whether a character belongs to a field. -/
def inField (c : Char) : Bool := c ≠ '\x7d'

/-- What follows the closing bracket, at a position: nothing, or an equals sign and a level. -/
def behindBrackets (l : Layout) (position : Nat) : List Char → Option Layout
  | [] => some l
  | '=' :: _ => some { l with level := some (position + 1) }
  | _ => none

/-- A bracketed part behind a target, from behind its opening bracket on. -/
def ofBrackets (target : Nat) (cs : List Char) : Option Layout :=
  let span := cs.takeWhile inSpan
  let position := target + 1 + Text.byteLength span
  match cs.dropWhile inSpan with
  | ']' :: rest => behindBrackets { target, named := true } (position + 1) rest
  | '\x7b' :: rest =>
    let stop := position + 1 + Text.byteLength (rest.takeWhile inField)
    match rest.dropWhile inField with
    | '\x7d' :: ']' :: rest =>
      behindBrackets { target, named := span ≠ [], field := some (position + 1, stop) } (stop + 2)
        rest
    | _ => none
  | _ => none

/-- The layout of a directive that has an equals sign or a bracket. -/
def ofChars? (cs : List Char) : Option Layout :=
  let target := Text.byteLength (cs.takeWhile inTarget)
  match cs.dropWhile inTarget with
  | '=' :: _ => some { target, level := some (target + 1) }
  | '[' :: rest => ofBrackets target rest
  | _ => none

end Layout

/-! ### Directives -/

/-- The entries that a directive is about. -/
structure Scope where
  /-- How their targets start. -/
  target : String := ""
  /-- A name that they give a value to. -/
  field : Option String := none
  /-- Only what happens inside a span, or with a certain value, is meant. -/
  inner : Bool := false
  deriving DecidableEq, Repr

/-- The greatest rank that passes for some entries. -/
structure Directive where
  scope : Scope
  greatest : Nat
  deriving DecidableEq, Repr

namespace Directive

/-- The greatest rank that a level lets pass, given by its number or its name; nothing passes the
lowest one. -/
def greatest? (s : String) : Option Nat :=
  match Numeral.read? UInt64.size s with
  | some n => if n ≤ Level.trace.rank then some n else none
  | none =>
    match Text.lowercase s with
    | "off" => some 0
    | "error" => some Level.error.rank
    | "warn" => some Level.warn.rank
    | "info" => some Level.info.rank
    | "debug" => some Level.debug.rank
    | "trace" => some Level.trace.rank
    | _ => none

/-- Whether a directive may start with a character. -/
def opens (c : Char) : Bool :=
  c = '[' || c = '-' || c = ':' || c = '_' || Text.isAlphanumeric c

/-- The rank behind an equals sign, where nothing at all means everything. -/
def levelRank? (level : List Char) : Option Nat :=
  if level = [] then some Level.trace.rank else greatest? (String.ofList level)

/-- Whether a value may be asked for by a text. -/
def isValue (cs : List Char) : Bool :=
  Decimal.isSpelling cs || (Pattern.parse? cs).isSome

/-- The name of a field, and whether a value is asked for behind an equals sign; what a second
equals sign separates does not count. -/
def fieldOf? (cs : List Char) : Option (String × Bool) :=
  let name := String.ofList (cs.takeWhile (· ≠ '='))
  match cs, cs.dropWhile (· ≠ '=') with
  | [], _ => none
  | _, [] => some (name, false)
  | _, _ :: value => if isValue (value.takeWhile (· ≠ '=')) then some (name, true) else none

/-- A directive without marks: a level, or else a target. -/
def ofPlain (piece : List Char) : Directive :=
  let text := String.ofList piece
  match greatest? text with
  | some greatest => ⟨{}, greatest⟩
  | none => ⟨{ target := text }, Level.trace.rank⟩

/-- The directive whose parts lie in a text as a layout tells. -/
def ofLayout? (piece : List Char) (l : Layout) : Option Directive := do
  let target := String.ofList (← Text.takeBytes? l.target piece)
  let level ← match l.level with
    | none => some []
    | some start => Text.dropBytes? start piece
  let greatest ← levelRank? level
  match l.field with
  | none => return ⟨{ target, inner := l.named }, greatest⟩
  | some (start, stop) =>
    let (name, valued) ← fieldOf? (← Text.bytesBetween? start stop piece)
    return ⟨{ target, field := some name, inner := l.named || valued }, greatest⟩

/-- A directive from its text. The marks are sought between the blanks at the two ends, while the
parts are cut from the text with its blanks, as many bytes from its start. -/
def parse? (piece : List Char) : Option Directive :=
  let cs := Text.trimChars piece
  if ¬(cs.head?.map opens).getD false then none
  else if cs.all Layout.inTarget then some (ofPlain piece)
  else (Layout.ofChars? cs).bind (ofLayout? piece)

/-- Whether a directive is about an entry. Entries are made outside of all spans. -/
def applies (d : Directive) (e : Entry) : Bool :=
  !d.scope.inner && Text.startsWith e.target d.scope.target
    && (d.scope.field.map e.names).getD true

/-- Whether a name comes before another one or is the same, no name being the first. -/
def nameLE : Option String → Option String → Bool
  | none, _ => true
  | some _, none => false
  | some a, some b => a ≤ b

/-- Whether of two directives about one entry the second decides: it has a longer target, or one as
long and a field that does not come before the other's. -/
def yieldsTo (d other : Directive) : Bool :=
  let length (d : Directive) : Nat := d.scope.target.length
  length d < length other
    || (length d == length other && nameLE d.scope.field other.scope.field)

end Directive

end DaemonConsole.Log
