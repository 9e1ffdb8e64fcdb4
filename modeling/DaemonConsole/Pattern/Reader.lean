/-
Reading regular expressions.

A reader takes a text from left to right and refuses whatever means nothing where it stands: a
repetition with nothing to repeat, a group or a class that is not closed, a name that two groups
have, or a part that does not fit the mode. Counted repetitions are refused altogether.

* `Pattern.parse?`: an expression from its text.
-/
import DaemonConsole.Pattern.Brackets
import DaemonConsole.Text.Alphanumeric

namespace DaemonConsole.Pattern

/-! ### Openings of groups -/

/-- What an opening parenthesis starts: a group, or a setting for the rest of the group around. -/
inductive Opening where
  | group (name : Option String) (settings : Settings)
  | setting (settings : Settings)

/-- Whether a name may go on with a character; its first one is a letter or an underscore. -/
def goesInName (isFirst : Bool) (c : Char) : Bool :=
  if isFirst then c = '_' || Text.isAlphabetic c
  else c = '_' || c = '.' || c = '[' || c = ']' || Text.isAlphanumeric c

/-- Takes the name of a group, from behind the angle that opens it up to the one that closes it. -/
def readName (cs : List Char) : Option (String × List Char) :=
  match cs.takeWhile (· ≠ '>'), cs.dropWhile (· ≠ '>') with
  | c :: name, _ :: rest =>
    if goesInName true c ∧ name.all (goesInName false) then some (String.ofList (c :: name), rest)
    else none
  | _, _ => none

/-- The flags read so far, in their order. -/
structure Flags where
  settings : Settings := []
  /-- A hyphen was read, behind which flags are switched off. -/
  off : Bool := false
  /-- That hyphen was the last character. -/
  dangling : Bool := false

/-- Adds a flag or the hyphen; each of them may come once. -/
def Flags.push? (f : Flags) (c : Char) : Option Flags :=
  if c = '-' then if f.off then none else some { f with off := true, dangling := true }
  else
    match Flag.ofChar? c with
    | none => none
    | some flag =>
      if f.settings.any (·.1 = flag) then none
      else some { f with settings := f.settings ++ [(flag, !f.off)], dangling := false }

/-- Takes flags up to the colon that starts a group, or up to the parenthesis that ends a
setting. -/
def readFlags (f : Flags) : List Char → Option (Opening × List Char)
  | [] => none
  | c :: rest =>
    if c = ':' ∨ c = ')' then
      if f.dangling then none
      else if c = ':' then some (.group none f.settings, rest)
      else if f.settings = [] then none
      else some (.setting f.settings, rest)
    else
      match f.push? c with
      | none => none
      | some f => readFlags f rest

/-- Takes what stands behind an opening parenthesis before the branches of the group. Groups that
only look ahead or behind are refused. -/
def readOpening : List Char → Option (Opening × List Char)
  | '?' :: 'P' :: '<' :: rest => (readName rest).map fun (name, rest) => (.group name [], rest)
  | '?' :: '<' :: rest => (readName rest).map fun (name, rest) => (.group name [], rest)
  | '?' :: rest => readFlags {} rest
  | rest => some (.group none [], rest)

/-! ### Branches -/

/-- The parts of a group before a place: those of its branches that are ended, and those of the
branch that goes on, the last one first. -/
structure Parts where
  branches : List (List Part) := []
  branch : List Part := []

namespace Parts

/-- Adds a part, which has to mean something in the mode. -/
def push? (s : Parts) (m : Mode) (part : Part) : Option Parts :=
  if part.fits m then some { s with branch := part :: s.branch } else none

/-- Ends the branch. -/
def cut (s : Parts) : Parts :=
  { branches := s.branch.reverse :: s.branches }

/-- Repeats the last part of the branch; there has to be one, and no setting. -/
def repeat? (s : Parts) : Option Parts :=
  match s.branch with
  | [] => none
  | .settings _ :: _ => none
  | part :: before => some { s with branch := .repeated part :: before }

end Parts

/-- The text behind the question mark that may follow a repetition. -/
def behindShort : List Char → List Char
  | '?' :: rest => rest
  | rest => rest

/-- Takes a character, a place or an escape. -/
def readPart (m : Mode) : List Char → Option (Part × List Char)
  | [] => none
  | '\\' :: rest => readEscape m rest
  | '.' :: rest => some (.dot, rest)
  | '^' :: rest => some (.anchor, rest)
  | '$' :: rest => some (.anchor, rest)
  | '[' :: rest => (readBrackets m rest).map fun (c, rest) => (.oneOf c, rest)
  | c :: rest => some (.literal { char := c }, rest)

/-- Takes branches up to the end of their group or of the text, which is left; `fuel` bounds the
number of parts. -/
def readBranches : (fuel : Nat) → Mode → Parts → List Char → Option (List (List Part) × List Char)
  | 0, _, _, _ => none
  | fuel + 1, m, s, cs =>
    match m.skip cs with
    | [] => some (s.cut.branches.reverse, [])
    | c :: rest =>
      if c = ')' then some (s.cut.branches.reverse, c :: rest)
      else if c = '|' then readBranches fuel m s.cut rest
      else if c = '?' ∨ c = '*' ∨ c = '+' then do
        readBranches fuel m (← s.repeat?) (behindShort rest)
      else if c = '\x7b' then none
      else if c = '(' then
        match readOpening (m.skip rest) with
        | none => none
        | some (.setting settings, rest) => do
          readBranches fuel (m.after settings) (← s.push? m (.settings settings)) rest
        | some (.group name settings, rest) => do
          let (branches, rest) ← readBranches fuel (m.after settings) {} rest
          match rest with
          | ')' :: rest => readBranches fuel m (← s.push? m (.group name branches)) rest
          | _ => none
      else do
        let (part, rest) ← readPart m (c :: rest)
        readBranches fuel m (← s.push? m part) rest

/-- How many levels an expression may have. -/
def maxDepth : Nat := 250

/-- Reads an expression. Each part takes a character at least, so the length is enough fuel. -/
def parse? (cs : List Char) : Option Pattern := do
  let (branches, rest) ← readBranches (cs.length + 1) {} {} cs
  let pattern : Pattern := ⟨branches⟩
  if rest = [] ∧ pattern.depth ≤ maxDepth ∧ pattern.groupNames.Nodup then return pattern else none

end DaemonConsole.Pattern
