/-
Classes of characters in brackets.

Between the brackets stand characters, ranges of them, escapes, and classes in brackets of their
own; operators combine what stands before and behind them. A circumflex at the start negates the
class, and hyphens at the start, or a closing bracket as its first item, stand for themselves.

* `Pattern.readBrackets`: the class from behind its opening bracket on.
-/
import DaemonConsole.Pattern.Escape

namespace DaemonConsole.Pattern

/-! ### Items -/

/-- The names of the classes of ASCII. -/
def classNames : List String :=
  ["alnum", "alpha", "ascii", "blank", "cntrl", "digit", "graph", "lower", "print", "punct",
    "space", "upper", "word", "xdigit"]

/-- Takes a named class of ASCII, from behind its opening bracket on. -/
def readNamed : List Char → Option (Class × List Char)
  | ':' :: rest =>
    let (negated, rest) : Bool × List Char :=
      match rest with
      | '^' :: rest => (true, rest)
      | rest => (false, rest)
    match rest.dropWhile (· ≠ ':') with
    | ':' :: ']' :: behind =>
      if classNames.contains (String.ofList (rest.takeWhile (· ≠ ':'))) then
        some (.named negated, behind)
      else none
    | _ => none
  | _ => none

/-- A part as an item of a class; places are none. -/
def Part.item? : Part → Option Class
  | literal l => some (.literal l)
  | oneOf c => some c
  | _ => none

/-- Takes a character or what a backslash makes of the characters behind it. -/
def readItem (m : Mode) : List Char → Option (Class × List Char)
  | [] => none
  | '\\' :: rest => do
    let (part, rest) ← readEscape m rest
    return (← part.item?, rest)
  | c :: rest => some (.literal { char := c }, rest)

/-- The range between two characters, the first of which does not come after the last. -/
def range? : Class → Class → Option Class
  | .literal first, .literal last =>
    if first.char ≤ last.char then some (.range first last) else none
  | _, _ => none

/-- Takes an item or a range. A hyphen before a closing bracket or another hyphen makes no range,
and behind either of them something has to follow. -/
def readRange (m : Mode) (cs : List Char) : Option (Class × List Char) := do
  let (first, rest) ← readItem m cs
  match m.skip rest with
  | [] => none
  | '-' :: behind =>
    if m.glance behind = some ']' ∨ m.glance behind = some '-' then return (first, '-' :: behind)
    else
      let (last, rest) ← readItem m (m.skip behind)
      return (← range? first last, rest)
  | rest => return (first, rest)

/-! ### Rows -/

/-- The text behind an operator that stands at its start: two ampersands for what two rows share,
two hyphens for what the second lacks, two tildes for what only one of them has. -/
def behindOperator? : List Char → Option (List Char)
  | '&' :: '&' :: rest => some rest
  | '-' :: '-' :: rest => some rest
  | '~' :: '~' :: rest => some rest
  | _ => none

/-- The items of a class before a place: those of the rows that an operator ended, and those of the
row that goes on, the last one first. -/
structure Items where
  rows : List (List Class) := []
  row : List Class := []
  /-- Only hyphens were read. -/
  fresh : Bool := true

namespace Items

/-- Adds an item, which has to mean something in the mode. -/
def push? (s : Items) (m : Mode) (item : Class) : Option Items :=
  if item.fits m then some { s with row := item :: s.row, fresh := false } else none

/-- Ends the row. -/
def cut (s : Items) : Items :=
  { rows := s.row.reverse :: s.rows, row := [], fresh := false }

/-- Whether a character at the start stands for itself. -/
def takesPlain (s : Items) (c : Char) : Bool :=
  s.fresh && (c = '-' || (c = ']' && s.row = []))

end Items

/-- Whether a class is negated, and the text behind the circumflex that tells it. -/
def readNegation (m : Mode) (cs : List Char) : Bool × List Char :=
  match m.skip cs with
  | '^' :: rest => (true, rest)
  | rest => (false, rest)

/-- Takes the rows of a class up to its closing bracket; `fuel` bounds the number of items. -/
def readRows (m : Mode) : (fuel : Nat) → Items → List Char → Option (List (List Class) × List Char)
  | 0, _, _ => none
  | fuel + 1, s, cs =>
    match m.skip cs with
    | [] => none
    | c :: rest =>
      if s.takesPlain c then
        readRows m fuel { s with row := .literal { char := c } :: s.row, fresh := c = '-' } rest
      else if c = ']' then some (s.cut.rows.reverse, rest)
      else if c = '[' then
        match readNamed rest with
        | some (item, rest) => do readRows m fuel (← s.push? m item) rest
        | none => do
          let (negated, rest) := readNegation m rest
          let (rows, rest) ← readRows m fuel {} rest
          readRows m fuel (← s.push? m (.bracketed negated rows)) rest
      else
        match behindOperator? (c :: rest) with
        | some rest => readRows m fuel s.cut rest
        | none => do
          let (item, rest) ← readRange m (c :: rest)
          readRows m fuel (← s.push? m item) rest

/-- Takes a class from behind its opening bracket on. Each item takes a character at least, so the
length is enough fuel. -/
def readBrackets (m : Mode) (cs : List Char) : Option (Class × List Char) := do
  let (negated, rest) := readNegation m cs
  let (rows, rest) ← readRows m (cs.length + 1) {} rest
  return (.bracketed negated rows, rest)

end DaemonConsole.Pattern
