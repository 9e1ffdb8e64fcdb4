/-
Data: what a configuration is decoded from, whatever the format of its text.

* `Datum.ofJson`: a JSON value as data, the fields of an object sorted by their keys and the last
  one of a key kept;
* `Datum.describe`: how an unexpected value is named in a message.
-/
import DaemonConsole.Decimal.Shortest
import DaemonConsole.Json.Value
import DaemonConsole.Text.Quoted

namespace DaemonConsole

/-- A value in a configuration text. -/
inductive Datum where
  | null
  | bool (value : Bool)
  | integer (value : Int)
  /-- A number that is no integer of 64 bits, by its text. -/
  | floating (text : String)
  | text (value : String)
  | list (items : List Datum)
  /-- Fields in the order in which they are visited. -/
  | table (fields : List (String × Datum))
  deriving Inhabited

namespace Datum

/-- An integer that fits into 64 bits, with or without a sign, and otherwise the binary number that
its digits are read as. -/
def ofInteger (n : Int) : Datum :=
  if -0x8000000000000000 ≤ n ∧ n < 0x10000000000000000 then integer n
  else floating (Decimal.print (.ofDigits (n < 0) (Nat.toDigits 10 n.natAbs) [] 0))

/-- Puts a field at its place among sorted ones, over one of the same key. -/
def insertField (key : String) (value : Datum) : List (String × Datum) → List (String × Datum)
  | [] => [(key, value)]
  | (k, v) :: rest =>
    if key < k then (key, value) :: (k, v) :: rest
    else if key = k then (key, value) :: rest
    else (k, v) :: insertField key value rest

/-- Fields sorted by their keys, the last one of a key kept. -/
def sortFields (fields : List (String × Datum)) : List (String × Datum) :=
  fields.foldl (fun sorted f => insertField f.1 f.2 sorted) []

mutual

/-- A JSON value as data. -/
def ofJson : Json → Datum
  | .null => null
  | .bool b => bool b
  | .integer n => ofInteger n
  | .decimal d => floating d.print
  | .text s => text s
  | .array items => list (ofJsonItems items)
  | .object members => table (sortFields (ofJsonMembers members))

/-- JSON items as data. -/
def ofJsonItems : List Json → List Datum
  | [] => []
  | item :: rest => ofJson item :: ofJsonItems rest

/-- The members of a JSON object as fields, in their order. -/
def ofJsonMembers : List (String × Json) → List (String × Datum)
  | [] => []
  | (key, value) :: rest => (key, ofJson value) :: ofJsonMembers rest

end

/-- How a value is named in a message. -/
def describe : Datum → String
  | null => "null"
  | bool b => s!"boolean `{b}`"
  | integer n => s!"integer `{n}`"
  | floating t => s!"floating point `{t}`"
  | text s => "string " ++ Text.quoted s
  | list _ => "sequence"
  | table _ => "map"

end Datum

end DaemonConsole
