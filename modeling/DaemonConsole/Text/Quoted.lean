/-
Texts between quotes, as they are shown inside a message.

A quote, a backslash, the line feed, the carriage return, the tab and NUL have short escapes; any
other character without a visible form is shown by its code point.
-/
import DaemonConsole.Text.Unprintable

namespace DaemonConsole.Text

/-- How a character is shown between quotes. -/
def quoteChar (c : Char) : List Char :=
  if c = '\x00' then ['\\', '0']
  else if c = '\t' then ['\\', 't']
  else if c = '\n' then ['\\', 'n']
  else if c = '\r' then ['\\', 'r']
  else if c = '"' then ['\\', '"']
  else if c = '\\' then ['\\', '\\']
  else if c.toNat < 0x20 ∨ c.toNat = 0x7F ∨ isUnprintable c then
    '\\' :: 'u' :: '{' :: Nat.toDigits 16 c.toNat ++ ['}']
  else [c]

/-- A text between quotes. -/
def quoted (s : String) : String :=
  String.ofList ('"' :: s.toList.flatMap quoteChar ++ ['"'])

end DaemonConsole.Text
