/-
The history of the line editor.

Lines are kept in the order in which they were typed, as many as the size allows; an empty line and
a repetition of the line before are not kept. A history file starts with a mark of its format, then
each entry takes a line, with backslashes and line feeds escaped. A file without the mark holds
plain lines, of which the first may be any line.

* `History.add`: one more line;
* `History.write`, `History.load`: the file format;
* `History.saved?`: what is written at the end of a session, which is nothing when no line was
  added.
-/
import DaemonConsole.Text.Utf8

namespace DaemonConsole.Editor

/-- The lines typed so far; `added` counts the latest ones that are not in the file. -/
structure History where
  size : Nat
  entries : List String
  added : Nat
  deriving DecidableEq, Repr

namespace History

/-- A history of some size without lines. -/
def empty (size : Nat) : History := ⟨size, [], 0⟩

/-- Whether a line is kept. -/
def keeps (h : History) (line : String) : Bool :=
  h.size != 0 && line != "" && h.entries.getLast? != some line

/-- Adds a line; the oldest one makes place when the history is full. -/
def add (h : History) (line : String) : History :=
  if h.keeps line then
    let entries := (if h.entries.length = h.size then h.entries.drop 1 else h.entries) ++ [line]
    ⟨h.size, entries, min (h.added + 1) entries.length⟩
  else h

/-- The first line of a history file. -/
def mark : String := "#V2"

/-! ### Writing -/

/-- How a character is written. -/
def escapeChar (c : Char) : List Char :=
  if c = '\\' then ['\\', '\\']
  else if c = '\n' then ['\\', 'n']
  else [c]

/-- An entry on a line of its own. -/
def writeEntry (entry : String) : String :=
  String.ofList (entry.toList.flatMap escapeChar ++ ['\n'])

/-- A history file. -/
def write (entries : List String) : String :=
  mark ++ "\n" ++ String.join (entries.map writeEntry)

/-- What is written at the end of a session. -/
def saved? (h : History) : Option String :=
  if h.added = 0 then none else some (write h.entries)

/-! ### Reading -/

/-- The characters that escapes stand for; nothing when a backslash stands before anything but a
backslash or the letter n. -/
def unescape? : List Char → Option (List Char)
  | [] => some []
  | '\\' :: 'n' :: rest => (unescape? rest).map ('\n' :: ·)
  | '\\' :: '\\' :: rest => (unescape? rest).map ('\\' :: ·)
  | c :: rest => if c = '\\' then none else (unescape? rest).map (c :: ·)

/-- The entry of a line; a line with a bad escape stands for itself. -/
def readEntry (line : String) : String :=
  match unescape? line.toList with
  | some cs => String.ofList cs
  | none => line

/-- The lines of a file, each without its line end, which is a line feed or a carriage return with a
line feed; the last line may lack it. -/
def cutLines : List UInt8 → List (List UInt8)
  | [] => []
  | [b] => if b = 0x0A then [[]] else [[b]]
  | 0x0D :: 0x0A :: bs => [] :: cutLines bs
  | b :: bs =>
    if b = 0x0A then [] :: cutLines bs
    else
      match cutLines bs with
      | [] => [[b]]
      | piece :: rest => (b :: piece) :: rest

/-- Adds the entries of a file's lines; reading stops at a line that is no well-formed text, and
then the entries read so far count as added. -/
def addLines (marked : Bool) (h : History) : List (List UInt8) → History
  | [] => { h with added := 0 }
  | piece :: rest =>
    if Utf8.isWellFormed piece then
      let line := String.ofList (Utf8.decode piece)
      addLines marked (h.add (if marked then readEntry line else line)) rest
    else h

/-- A history with the entries of a file. -/
def load (size : Nat) (file : List UInt8) : History :=
  match cutLines file with
  | [] => empty size
  | first :: rest =>
    if first = Utf8.encode mark then addLines true (empty size) rest
    else addLines false (empty size) (first :: rest)

end History

end DaemonConsole.Editor
