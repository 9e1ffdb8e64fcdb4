/-
Reading JSON text.

The reader accepts the JSON grammar: blanks (space, tab, line feed, carriage return) around every
token, numbers without leading zeros, strings without raw control characters, `\u` escapes with
surrogates in pairs only. An integer that is written without fraction and exponent is read as one,
whatever its size; any other number is a decimal that keeps the digits that fit into 64 bits.

* `Json.parse?`: a text that is one value and nothing else.
-/
import DaemonConsole.Json.Value
import DaemonConsole.Text.Numeral

namespace DaemonConsole.Json

/-! ### Blanks and literals -/

/-- The blanks of JSON. -/
def isBlank (c : Char) : Bool :=
  c = ' ' || c = '\t' || c = '\n' || c = '\r'

/-- The text after its leading blanks. -/
def skipBlanks (cs : List Char) : List Char :=
  cs.dropWhile isBlank

/-- The text after a given start. -/
def afterStart (start cs : List Char) : Option (List Char) :=
  if start.isPrefixOf cs then some (cs.drop start.length) else none

/-! ### Strings -/

/-- The number that four hexadecimal digits spell. -/
def fourHex? : List Char → Option (Nat × List Char)
  | a :: b :: c :: d :: rest =>
    if [a, b, c, d].all (Numeral.isDigit 16) then some (Numeral.ofDigits 16 [a, b, c, d], rest)
    else none
  | _ => none

/-- What a letter after a backslash stands for, `u` apart. -/
def simpleEscape? : Char → Option Char
  | '"' => some '"'
  | '\\' => some '\\'
  | '/' => some '/'
  | 'b' => some '\x08'
  | 'f' => some '\x0c'
  | 'n' => some '\n'
  | 'r' => some '\r'
  | 't' => some '\t'
  | _ => none

/-- The character of a `\u` escape: one unit, or a high and a low surrogate in two escapes. -/
def unicodeEscape? (cs : List Char) : Option (Char × List Char) :=
  match fourHex? cs with
  | none => none
  | some (high, rest) =>
    if 0xD800 ≤ high ∧ high < 0xDC00 then
      match rest with
      | '\\' :: 'u' :: rest =>
        match fourHex? rest with
        | some (low, rest) =>
          if 0xDC00 ≤ low ∧ low < 0xE000 then
            some (Char.ofNat (0x10000 + (high - 0xD800) * 1024 + (low - 0xDC00)), rest)
          else none
        | none => none
      | _ => none
    else if 0xDC00 ≤ high ∧ high < 0xE000 then none
    else some (Char.ofNat high, rest)

/-- Takes the rest of a string, up to its closing quote; `fuel` bounds the number of characters. -/
def readText : (fuel : Nat) → List Char → Option (List Char × List Char)
  | 0, _ => none
  | fuel + 1, cs =>
    match cs with
    | [] => none
    | '"' :: rest => some ([], rest)
    | '\\' :: 'u' :: rest => do
      let (c, rest) ← unicodeEscape? rest
      let (tail, rest) ← readText fuel rest
      return (c :: tail, rest)
    | '\\' :: e :: rest => do
      let c ← simpleEscape? e
      let (tail, rest) ← readText fuel rest
      return (c :: tail, rest)
    | c :: rest =>
      if c.toNat < 0x20 ∨ c = '\\' then none
      else do
        let (tail, rest) ← readText fuel rest
        return (c :: tail, rest)

/-! ### Numbers -/

/-- Takes a run of decimal digits, at least one. -/
def readDigits (cs : List Char) : Option (List Char × List Char) :=
  match cs.takeWhile (Numeral.isDigit 10) with
  | [] => none
  | ds => some (ds, cs.dropWhile (Numeral.isDigit 10))

/-- Takes an exponent with an optional sign; a text without one has none. -/
def readExponent : List Char → Option (Option Int × List Char)
  | e :: rest =>
    if e = 'e' ∨ e = 'E' then
      let (negative, rest) : Bool × List Char :=
        match rest with
        | '-' :: rest => (true, rest)
        | '+' :: rest => (false, rest)
        | rest => (false, rest)
      match readDigits rest with
      | none => none
      | some (ds, rest) =>
        let n : Int := Numeral.ofDigits 10 ds
        some (some (if negative then -n else n), rest)
    else some (none, e :: rest)
  | [] => some (none, [])

/-- Takes a point and the digits after it; a text without a point has none. -/
def readFraction : List Char → Option (List Char × List Char)
  | '.' :: rest => readDigits rest
  | rest => some ([], rest)

/-- Takes a number without its sign. -/
def readUnsigned (negative : Bool) (cs : List Char) : Option (Json × List Char) :=
  match readDigits cs with
  | none => none
  | some (whole, rest) =>
    if 1 < whole.length ∧ whole.head? = some '0' then none
    else
      match readFraction rest with
      | none => none
      | some (fraction, rest) =>
        match readExponent rest with
        | none => none
        | some (exponent, rest) =>
          let n : Int := Numeral.ofDigits 10 whole
          if fraction = [] ∧ exponent = none ∧ ¬(negative ∧ n = 0) then
            some (integer (if negative then -n else n), rest)
          else some (decimal (.ofDigits negative whole fraction (exponent.getD 0)), rest)

/-- Takes a number. -/
def readNumber : List Char → Option (Json × List Char)
  | '-' :: rest => readUnsigned true rest
  | rest => readUnsigned false rest

/-! ### Values -/

mutual

/-- Takes a value, the blanks before it included; `fuel` bounds the number of steps. -/
def readValue : (fuel : Nat) → List Char → Option (Json × List Char)
  | 0, _ => none
  | fuel + 1, cs =>
    match skipBlanks cs with
    | '"' :: rest =>
      (readText rest.length.succ rest).map fun (cs, rest) => (text (String.ofList cs), rest)
    | '[' :: rest =>
      match skipBlanks rest with
      | ']' :: rest => some (array [], rest)
      | rest => (readItems fuel rest).map fun (items, rest) => (array items, rest)
    | '{' :: rest =>
      match skipBlanks rest with
      | '}' :: rest => some (object [], rest)
      | rest => (readMembers fuel rest).map fun (members, rest) => (object members, rest)
    | 'n' :: rest => (afterStart "ull".toList rest).map fun rest => (null, rest)
    | 't' :: rest => (afterStart "rue".toList rest).map fun rest => (bool true, rest)
    | 'f' :: rest => (afterStart "alse".toList rest).map fun rest => (bool false, rest)
    | rest => readNumber rest

/-- Takes the items of an array up to its closing bracket. -/
def readItems : (fuel : Nat) → List Char → Option (List Json × List Char)
  | 0, _ => none
  | fuel + 1, cs =>
    match readValue fuel cs with
    | none => none
    | some (item, rest) =>
      match skipBlanks rest with
      | ']' :: rest => some ([item], rest)
      | ',' :: rest => (readItems fuel rest).map fun (items, rest) => (item :: items, rest)
      | _ => none

/-- Takes the members of an object up to its closing brace. -/
def readMembers : (fuel : Nat) → List Char → Option (List (String × Json) × List Char)
  | 0, _ => none
  | fuel + 1, cs =>
    match skipBlanks cs with
    | '"' :: rest =>
      match readText rest.length.succ rest with
      | none => none
      | some (key, rest) =>
        match skipBlanks rest with
        | ':' :: rest =>
          match readValue fuel rest with
          | none => none
          | some (value, rest) =>
            let member := (String.ofList key, value)
            match skipBlanks rest with
            | '}' :: rest => some ([member], rest)
            | ',' :: rest => (readMembers fuel rest).map fun (ms, rest) => (member :: ms, rest)
            | _ => none
        | _ => none
    | _ => none

end

/-- Reads a text that is one value and nothing else. Each step of the reader takes at least one
character or descends once, so twice the length is enough fuel. -/
def parse? (s : String) : Option Json :=
  match readValue (2 * s.length + 2) s.toList with
  | some (j, rest) => if skipBlanks rest = [] then some j else none
  | none => none

end DaemonConsole.Json
