/-
Log entries.

An entry has a level, a target that names the part of the program it comes from, a message and named
values.

* `Log.Entry.print`: the line of an entry, in whose message no control character reaches the
  terminal;
* `Log.Entry.names`: whether a name is one of its values or its message.
-/
namespace DaemonConsole.Log

/-- How much an entry matters. -/
inductive Level where
  | error
  | warn
  | info
  | debug
  | trace
  deriving DecidableEq, Repr

namespace Level

/-- The name of a level in a line. -/
def name : Level → String
  | error => "ERROR"
  | warn => "WARN"
  | info => "INFO"
  | debug => "DEBUG"
  | trace => "TRACE"

/-- The place of a level: the smaller, the more it matters. -/
def rank : Level → Nat
  | error => 1
  | warn => 2
  | info => 3
  | debug => 4
  | trace => 5

end Level

/-- One entry. -/
structure Entry where
  level : Level
  target : String
  message : String
  /-- Named values, already in the form in which they are shown. -/
  values : List (String × String)
  deriving DecidableEq, Repr

namespace Entry

/-- The name under which a message can be asked for. -/
def messageName : String := "message"

/-- Whether a name is one of the values or the message. -/
def names (e : Entry) (name : String) : Bool :=
  name == messageName || e.values.any (·.1 == name)

/-- How a character of a message is shown: the controls that a terminal obeys are spelled out, while
blanks and the other controls stand for themselves. -/
def showChar (c : Char) : List Char :=
  if c = '\x07' then "\\x07".toList
  else if c = '\x08' then "\\x08".toList
  else if c = '\x0c' then "\\x0c".toList
  else if c = '\x1b' then "\\x1b".toList
  else if c = '\x7f' then "\\x7f".toList
  else if 0x80 ≤ c.toNat ∧ c.toNat < 0xA0 then
    '\\' :: 'u' :: '{' :: Nat.toDigits 16 c.toNat ++ ['}']
  else [c]

/-- The line of an entry, without its time. -/
def print (e : Entry) : String :=
  e.level.name ++ " " ++ e.target ++ ": " ++ String.ofList (e.message.toList.flatMap showChar)
    ++ String.join (e.values.map fun (key, value) => " " ++ key ++ "=" ++ value) ++ "\n"

end Entry

end DaemonConsole.Log
