/-
The history file at the end of a session.

The directories above the file are made whether or not there is something to write; the file itself
is only made when a line was added.
-/
import DaemonConsole.Editor.History
import DaemonConsole.Error
import DaemonConsole.Files

namespace DaemonConsole.Editor.History

/-- What is written under a path in a directory that is there, or why it cannot be written. -/
def save (h : History) (directory path : String) : Except ConsoleError (Option String) :=
  let (above, _, _) := Path.splitFile path
  match Path.directoryObstacle? directory above with
  | some obstacle => .error (.io obstacle.reason)
  | none =>
    match h.saved?, Path.fileObstacle? directory path with
    | none, _ => .ok none
    | some text, none => .ok (some text)
    | some _, some obstacle => .error (.lineEditor ("cannot save history: " ++ obstacle.reason))

end DaemonConsole.Editor.History
