/-
Errors that end the console: configuration, layers, files and streams, the line editor, and faults
of the console itself. What an operator does wrong is no error in this sense; it is a `Report`.
-/
namespace DaemonConsole

/-- Why the console cannot start or go on. -/
inductive ConsoleError where
  | config (reason : String)
  | layer (reason : String)
  | io (reason : String)
  | lineEditor (reason : String)
  | internal (reason : String)
  deriving DecidableEq, Repr

namespace ConsoleError

/-- The heading under which an error is reported. -/
def category : ConsoleError → String
  | config _ => "Configuration Error"
  | layer _ => "Layer Error"
  | io _ => "I/O Error"
  | lineEditor _ => "Line Editor Error"
  | internal _ => "Internal Error"

/-- The wording of an error. -/
def message : ConsoleError → String
  | config reason => "Configuration error: " ++ reason
  | layer reason => "Layer error: " ++ reason
  | io reason => "I/O error: " ++ reason
  | lineEditor reason => "Line editor error: " ++ reason
  | internal reason => "Internal error: " ++ reason

/-- The wording followed by that of the cause, which an input or output error has. -/
def messageWithCause : ConsoleError → String
  | io reason => message (io reason) ++ ": " ++ reason
  | e => e.message

/-- The line editor met the end of its input. -/
def endOfInput : ConsoleError := lineEditor "EOF"

/-- The line editor was interrupted. -/
def interruptedEditor : ConsoleError := lineEditor "Interrupted"

end ConsoleError

end DaemonConsole
