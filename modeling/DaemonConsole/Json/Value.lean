/-
JSON values and their compact text.

An object keeps its members in the order they were given. A number is an integer or a decimal, that
is a coefficient and a power of ten; `-0` is a decimal because no integer tells it from `0`.

* `Json.write`: the text without any blank; in strings a quote, a backslash and the characters below
  U+0020 are escaped and every other character stands for itself.
-/
import DaemonConsole.Decimal.Basic

namespace DaemonConsole

/-- A JSON value. -/
inductive Json where
  | null
  | bool (value : Bool)
  | integer (value : Int)
  | decimal (value : Decimal)
  | text (value : String)
  | array (items : List Json)
  | object (members : List (String × Json))
  deriving Inhabited

namespace Json

/-! ### Writing -/

/-- A hexadecimal digit in lowercase. -/
def hexDigit (n : Nat) : Char :=
  if n < 10 then Char.ofNat (48 + n) else Char.ofNat (87 + n)

/-- How a character is written inside a string. -/
def escapeChar (c : Char) : List Char :=
  if c = '"' then ['\\', '"']
  else if c = '\\' then ['\\', '\\']
  else if c = '\x08' then ['\\', 'b']
  else if c = '\x0c' then ['\\', 'f']
  else if c = '\n' then ['\\', 'n']
  else if c = '\r' then ['\\', 'r']
  else if c = '\t' then ['\\', 't']
  else if c.toNat < 0x20 then
    ['\\', 'u', '0', '0', hexDigit (c.toNat / 16), hexDigit (c.toNat % 16)]
  else [c]

/-- A string between quotes. -/
def writeText (s : String) : List Char :=
  '"' :: s.toList.flatMap escapeChar ++ ['"']

/-- An integer in decimal. -/
def writeInt (n : Int) : List Char :=
  if n < 0 then '-' :: Nat.toDigits 10 n.natAbs else Nat.toDigits 10 n.natAbs

/-- A decimal with its exponent written out. -/
def writeDecimal (d : Decimal) : List Char :=
  (if d.negative then ['-'] else []) ++ Nat.toDigits 10 d.coefficient ++ 'e' :: writeInt d.exponent

/-- Pieces with commas between them. -/
def commaSeparated : List (List Char) → List Char
  | [] => []
  | [piece] => piece
  | piece :: rest => piece ++ ',' :: commaSeparated rest

mutual

/-- The characters of a value. -/
def writeChars : Json → List Char
  | null => "null".toList
  | bool true => "true".toList
  | bool false => "false".toList
  | integer n => writeInt n
  | decimal d => writeDecimal d
  | text s => writeText s
  | array items => '[' :: commaSeparated (writeItems items) ++ [']']
  | object members => '{' :: commaSeparated (writeMembers members) ++ ['}']

/-- The characters of each item of an array. -/
def writeItems : List Json → List (List Char)
  | [] => []
  | item :: rest => writeChars item :: writeItems rest

/-- The characters of each member of an object. -/
def writeMembers : List (String × Json) → List (List Char)
  | [] => []
  | (key, value) :: rest => (writeText key ++ ':' :: writeChars value) :: writeMembers rest

end

/-- The compact text of a value. -/
def write (j : Json) : String :=
  String.ofList j.writeChars

/-! ### Access -/

/-- The member of an object under a key; of several the last one counts. -/
def get? (j : Json) (key : String) : Option Json :=
  match j with
  | object members => (members.reverse.find? (·.1 = key)).map (·.2)
  | _ => none

/-- The text of a string. -/
def text? : Json → Option String
  | text s => some s
  | _ => none

/-- A natural number. -/
def nat? : Json → Option Nat
  | integer (.ofNat n) => some n
  | _ => none

/-- A truth value. -/
def bool? : Json → Option Bool
  | bool b => some b
  | _ => none

/-- The items of an array. -/
def items? : Json → Option (List Json)
  | array items => some items
  | _ => none

end Json

end DaemonConsole
