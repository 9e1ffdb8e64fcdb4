/-
Keys, strings, numbers and dates of TOML.

Each reader takes its form off the front of a text and gives the text after it. Whether what follows
may follow is for the caller to say.
-/
import DaemonConsole.Config.Datum
import DaemonConsole.Text.Numeral

namespace DaemonConsole.Toml

/-! ### Blanks, line ends and comments -/

/-- A blank inside a line. -/
def isBlank (c : Char) : Bool :=
  c = ' ' || c = '\t'

/-- A character that may stand in a comment and, quotes and backslashes apart, in a string on one
line: the tab and every character that is no control of ASCII. -/
def isPlain (c : Char) : Bool :=
  c = '\t' || (0x20 ≤ c.toNat && c.toNat ≠ 0x7F)

/-- The text after the blanks at its start. -/
def skipBlanks (cs : List Char) : List Char :=
  cs.dropWhile isBlank

/-- Takes a line end. -/
def newline? : List Char → Option (List Char)
  | '\n' :: rest => some rest
  | '\r' :: '\n' :: rest => some rest
  | _ => none

/-- The text after a comment, if there is one at its start. -/
def skipComment : List Char → List Char
  | '#' :: rest => rest.dropWhile isPlain
  | rest => rest

/-- Takes what may follow on a line: blanks, a comment, and the end of the line or of the text. -/
def lineEnd? (cs : List Char) : Option (List Char) :=
  match skipComment (skipBlanks cs) with
  | [] => some []
  | rest => newline? rest

/-- The text after blanks, line ends and comments, each comment closed by a line end; `fuel` bounds
their number. -/
def skipLines : (fuel : Nat) → List Char → List Char
  | 0, cs => cs
  | fuel + 1, cs =>
    let cs := skipBlanks cs
    match newline? (skipComment cs) with
    | some rest => skipLines fuel rest
    | none => cs

/-! ### Strings -/

/-- Takes an escape sequence after its backslash: a letter, or `u` and `U` with four and eight
hexadecimal digits for a Unicode scalar value. -/
def escape? : List Char → Option (Char × List Char)
  | 'b' :: rest => some ('\x08', rest)
  | 't' :: rest => some ('\t', rest)
  | 'n' :: rest => some ('\n', rest)
  | 'f' :: rest => some ('\x0c', rest)
  | 'r' :: rest => some ('\r', rest)
  | '"' :: rest => some ('"', rest)
  | '\\' :: rest => some ('\\', rest)
  | 'u' :: rest => scalar 4 rest
  | 'U' :: rest => scalar 8 rest
  | _ => none
where
  /-- Takes digits for a scalar value. -/
  scalar (count : Nat) (cs : List Char) : Option (Char × List Char) :=
    let digits := cs.take count
    let n := Numeral.ofDigits 16 digits
    if digits.length = count ∧ digits.all (Numeral.isDigit 16) ∧ n.isValidChar then
      some (Char.ofNat n, cs.drop count)
    else none

/-- Takes the rest of a string between double quotes. -/
def basic? : (fuel : Nat) → List Char → Option (List Char × List Char)
  | 0, _ => none
  | fuel + 1, cs =>
    match cs with
    | '"' :: rest => some ([], rest)
    | '\\' :: rest => do
      let (c, rest) ← escape? rest
      let (text, rest) ← basic? fuel rest
      return (c :: text, rest)
    | c :: rest =>
      if isPlain c then (basic? fuel rest).map fun (text, rest) => (c :: text, rest) else none
    | [] => none

/-- Takes the rest of a string between single quotes. -/
def literal? (cs : List Char) : Option (List Char × List Char) :=
  let inside (c : Char) : Bool := isPlain c && c ≠ '\''
  match cs.dropWhile inside with
  | '\'' :: rest => some (cs.takeWhile inside, rest)
  | _ => none

/-- The text after a backslash at the end of a line: blanks, a line end, and then all blanks and
line ends. -/
def foldedLine? (cs : List Char) : Option (List Char) :=
  (newline? (skipBlanks cs)).map (skipWhite cs.length)
where
  /-- The text after blanks and line ends. -/
  skipWhite : (fuel : Nat) → List Char → List Char
    | 0, cs => cs
    | fuel + 1, cs =>
      match newline? (skipBlanks cs) with
      | some rest => skipWhite fuel rest
      | none => skipBlanks cs

/-- The quotes at the end of a long string: of a run of three to five the last three close it. -/
def closing? (quote : Char) (cs : List Char) : Option (List Char × List Char) :=
  let run := (cs.takeWhile (· = quote)).length
  if 3 ≤ run then
    let inside := min (run - 3) 2
    some (List.replicate inside quote, cs.drop (inside + 3))
  else none

/-- Takes the rest of a string between three double quotes. -/
def longBasic? : (fuel : Nat) → List Char → Option (List Char × List Char)
  | 0, _ => none
  | fuel + 1, cs =>
    match closing? '"' cs with
    | some closed => some closed
    | none =>
      match newline? cs with
      | some rest => (longBasic? fuel rest).map fun (text, rest) => ('\n' :: text, rest)
      | none =>
        match cs with
        | '\\' :: rest =>
          match escape? rest, foldedLine? rest with
          | some (c, rest), _ => (longBasic? fuel rest).map fun (text, rest) => (c :: text, rest)
          | none, some rest => longBasic? fuel rest
          | none, none => none
        | c :: rest =>
          if isPlain c then (longBasic? fuel rest).map fun (text, rest) => (c :: text, rest)
          else none
        | [] => none

/-- Takes the rest of a string between three single quotes. -/
def longLiteral? : (fuel : Nat) → List Char → Option (List Char × List Char)
  | 0, _ => none
  | fuel + 1, cs =>
    match closing? '\'' cs with
    | some closed => some closed
    | none =>
      match newline? cs with
      | some rest => (longLiteral? fuel rest).map fun (text, rest) => ('\n' :: text, rest)
      | none =>
        match cs with
        | c :: rest =>
          if isPlain c then (longLiteral? fuel rest).map fun (text, rest) => (c :: text, rest)
          else none
        | [] => none

/-- The text after a line end, if there is one at its start. -/
def skipNewline (cs : List Char) : List Char :=
  (newline? cs).getD cs

/-- Takes a string of any of the four forms. -/
def string? (cs : List Char) : Option (String × List Char) :=
  let taken :=
    match cs with
    | '"' :: '"' :: '"' :: rest => longBasic? cs.length (skipNewline rest)
    | '"' :: rest => basic? cs.length rest
    | '\'' :: '\'' :: '\'' :: rest => longLiteral? cs.length (skipNewline rest)
    | '\'' :: rest => literal? rest
    | _ => none
  taken.map fun (text, rest) => (String.ofList text, rest)

/-! ### Keys -/

/-- A character of a key without quotes. -/
def isBareKeyChar (c : Char) : Bool :=
  c.isAlphanum || c = '-' || c = '_'

/-- Takes one part of a key. -/
def keyPart? (cs : List Char) : Option (String × List Char) :=
  match cs with
  | '"' :: rest => (basic? cs.length rest).map fun (text, rest) => (String.ofList text, rest)
  | '\'' :: rest => (literal? rest).map fun (text, rest) => (String.ofList text, rest)
  | cs =>
    match cs.takeWhile isBareKeyChar with
    | [] => none
    | text => some (String.ofList text, cs.dropWhile isBareKeyChar)

/-- Takes the parts of a key with points between them and blanks around them. -/
def keyParts? : (fuel : Nat) → List Char → Option (List String × List Char)
  | 0, _ => none
  | fuel + 1, cs => do
    let (part, rest) ← keyPart? (skipBlanks cs)
    match skipBlanks rest with
    | '.' :: rest => do
      let (parts, rest) ← keyParts? fuel rest
      return (part :: parts, rest)
    | rest => return ([part], rest)

/-- How deep tables and lists may be nested. -/
def maxDepth : Nat := 80

/-- Takes a key: its parents and its last part. -/
def key? (cs : List Char) : Option ((List String × String) × List Char) := do
  let (parts, rest) ← keyParts? cs.length cs
  if maxDepth ≤ parts.length then none
  else
    match parts.reverse with
    | [] => none
    | last :: parents => return ((parents.reverse, last), rest)

/-! ### Numbers -/

/-- The text after a sign, and whether the sign was a minus. -/
def takeSign : List Char → Bool × List Char
  | '+' :: rest => (false, rest)
  | '-' :: rest => (true, rest)
  | rest => (false, rest)

/-- Takes digits of a base with single underscores between them, at least one. -/
def digits? (base : Nat) : List Char → Option (List Char × List Char)
  | [] => none
  | c :: rest =>
    if Numeral.isDigit base c then
      match rest with
      | '_' :: after =>
        match digits? base after with
        | some (ds, rest) => some (c :: ds, rest)
        | none => some ([c], rest)
      | rest =>
        match digits? base rest with
        | some (ds, rest) => some (c :: ds, rest)
        | none => some ([c], rest)
    else none

/-- Takes digits in decimal, of which the first is zero only if it is the only one. -/
def wholeDigits? : List Char → Option (List Char × List Char)
  | '0' :: rest => some (['0'], rest)
  | rest => digits? 10 rest

/-- Takes a point and the digits after it. -/
def fraction? : List Char → Option (List Char × List Char)
  | '.' :: rest => digits? 10 rest
  | _ => none

/-- Takes an exponent. -/
def exponent? : List Char → Option (Int × List Char)
  | e :: rest =>
    if e = 'e' ∨ e = 'E' then
      let (negative, rest) := takeSign rest
      (digits? 10 rest).map fun (ds, rest) =>
        let n : Int := Numeral.ofDigits 10 ds
        (if negative then -n else n, rest)
    else none
  | [] => none

/-- Takes a given word. -/
def word? (word : String) (cs : List Char) : Option (List Char) :=
  if word.toList.isPrefixOf cs then some (cs.drop word.length) else none

/-- Takes a number with a fraction or an exponent, or an infinity, or the value that is no number. A
positive number too large for its type is refused. -/
def float? (cs : List Char) : Option (Datum × List Char) :=
  let (negative, unsigned) := takeSign cs
  let taken : Option (Decimal × List Char) := do
    let (whole, rest) ← wholeDigits? unsigned
    match fraction? rest with
    | some (fraction, rest) =>
      let (exponent, rest) := (exponent? rest).getD (0, rest)
      return (⟨negative, Numeral.ofDigits 10 (whole ++ fraction), exponent - fraction.length⟩, rest)
    | none =>
      let (exponent, rest) ← exponent? rest
      return (⟨negative, Numeral.ofDigits 10 whole, exponent⟩, rest)
  match taken with
  | some (d, rest) =>
    if d.overflows then (if negative then some (.floating "-inf", rest) else none)
    else some (.floating d.print, rest)
  | none =>
    match word? "inf" unsigned, word? "nan" unsigned with
    | some rest, _ => some (.floating (if negative then "-inf" else "inf"), rest)
    | none, some rest => some (.floating "NaN", rest)
    | none, none => none

/-- An integer of 64 bits with its sign. -/
def integerDatum? (n : Int) : Option Datum :=
  if -0x8000000000000000 ≤ n ∧ n < 0x8000000000000000 then some (.integer n) else none

/-- Takes an integer: hexadecimal, octal, binary, or decimal with an optional sign. -/
def integer? (cs : List Char) : Option (Datum × List Char) :=
  let based (base : Nat) (rest : List Char) : Option (Datum × List Char) := do
    let (ds, rest) ← digits? base rest
    return (← integerDatum? (Numeral.ofDigits base ds), rest)
  match cs with
  | '0' :: 'x' :: rest => based 16 rest
  | '0' :: 'o' :: rest => based 8 rest
  | '0' :: 'b' :: rest => based 2 rest
  | cs => do
    let (negative, rest) := takeSign cs
    let (ds, rest) ← wholeDigits? rest
    let n : Int := Numeral.ofDigits 10 ds
    return (← integerDatum? (if negative then -n else n), rest)

/-! ### Dates and times -/

/-- Takes a fixed count of decimal digits whose value lies between two bounds. -/
def fixedDigits? (count low high : Nat) (cs : List Char) : Option (Nat × List Char) :=
  let ds := cs.take count
  let n := Numeral.ofDigits 10 ds
  if ds.length = count ∧ ds.all (Numeral.isDigit 10) ∧ low ≤ n ∧ n ≤ high then
    some (n, cs.drop count)
  else none

/-- Takes one given character. -/
def char? (c : Char) : List Char → Option (List Char)
  | d :: rest => if d = c then some rest else none
  | [] => none

/-- The number of days in a month of the common calendar. -/
def daysInMonth (year month : Nat) : Nat :=
  if month = 2 then (if year % 4 = 0 ∧ (year % 100 ≠ 0 ∨ year % 400 = 0) then 29 else 28)
  else if month = 4 ∨ month = 6 ∨ month = 9 ∨ month = 11 then 30
  else 31

/-- The text after a date. -/
def date? (cs : List Char) : Option (List Char) := do
  let (year, rest) ← fixedDigits? 4 0 9999 cs
  let (month, rest) ← fixedDigits? 2 1 12 (← char? '-' rest)
  let (_, rest) ← fixedDigits? 2 1 (daysInMonth year month) (← char? '-' rest)
  return rest

/-- The text after a time, which may have a fraction of a second. -/
def time? (cs : List Char) : Option (List Char) := do
  let (_, rest) ← fixedDigits? 2 0 23 cs
  let (_, rest) ← fixedDigits? 2 0 59 (← char? ':' rest)
  let (_, rest) ← fixedDigits? 2 0 60 (← char? ':' rest)
  match rest with
  | '.' :: after =>
    match after.takeWhile (Numeral.isDigit 10) with
    | [] => return rest
    | _ => return after.dropWhile (Numeral.isDigit 10)
  | rest => return rest

/-- The text after an offset from universal time. -/
def offset? : List Char → Option (List Char)
  | 'Z' :: rest => some rest
  | 'z' :: rest => some rest
  | c :: rest =>
    if c = '+' ∨ c = '-' then do
      let (_, rest) ← fixedDigits? 2 0 23 rest
      let (_, rest) ← fixedDigits? 2 0 59 (← char? ':' rest)
      return rest
    else none
  | [] => none

/-- The text after a date, a date with a time and perhaps an offset, or a time. -/
def afterMoment? (cs : List Char) : Option (List Char) :=
  match date? cs with
  | none => time? cs
  | some rest =>
    match rest with
    | c :: after =>
      if c = 'T' ∨ c = 't' ∨ c = ' ' then
        match time? after with
        | some rest => some ((offset? rest).getD rest)
        | none => some (c :: after)
      else some (c :: after)
    | [] => some []

/-- The field under which a moment keeps its text. -/
def momentField : String := "$__toml_private_datetime"

/-- Takes a date or a time. It is a table of one field, which no record has. -/
def moment? (cs : List Char) : Option (Datum × List Char) :=
  (afterMoment? cs).map fun rest =>
    (.table [(momentField, .text (String.ofList (cs.take (cs.length - rest.length))))], rest)

/-- Takes a value that is no string, list or table. -/
def plain? (cs : List Char) : Option (Datum × List Char) :=
  match word? "true" cs, word? "false" cs with
  | some rest, _ => some (.bool true, rest)
  | none, some rest => some (.bool false, rest)
  | none, none => (moment? cs).or ((float? cs).or (integer? cs))

end DaemonConsole.Toml
