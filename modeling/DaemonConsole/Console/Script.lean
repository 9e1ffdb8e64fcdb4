/-
Scripts: bytes as the lines of a source.

A line ends after a line feed, and the last one may lack it. Each line is decoded on its own with
malformed bytes replaced, so a bad byte spoils one line; the line feeds and carriage returns at its
end are dropped.
-/
import DaemonConsole.Console.Rendering
import DaemonConsole.Text.Utf8

namespace DaemonConsole.Console

/-- Bytes cut after every line feed, without an empty piece at the end. -/
def cutLines : List UInt8 → List (List UInt8)
  | [] => []
  | b :: bs =>
    if b = 0x0A then [b] :: cutLines bs
    else
      match cutLines bs with
      | [] => [[b]]
      | piece :: rest => (b :: piece) :: rest

/-- The characters before the line feeds and carriage returns at the end. -/
def trimLineEnd : List Char → List Char
  | [] => []
  | c :: cs =>
    match trimLineEnd cs with
    | [] => if c = '\n' ∨ c = '\r' then [] else [c]
    | d :: ds => c :: d :: ds

/-- The text of one piece of a script. -/
def scriptLine (piece : List UInt8) : String :=
  String.ofList (trimLineEnd (Utf8.decode piece))

/-- The items of a script. -/
def itemsOfScript (script : List UInt8) : List Item :=
  (cutLines script).map fun piece => .line (scriptLine piece) (Utf8.isWellFormed piece)

/-- The lines of a script. -/
def linesOfScript (script : List UInt8) : List String :=
  (cutLines script).map scriptLine

/-- What a source that echoes writes while all its items are read behind one prompt. -/
def echoOf (prompt : String) (items : List Item) : String :=
  String.join ((items.flatMap (Item.reading prompt)).map (Event.outputText .text true))

end DaemonConsole.Console
