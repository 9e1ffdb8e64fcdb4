/-
Reports: what the console tells the operator.

* `Report.isError`: command output belongs on the standard output, every other report does not;
* `Report.message`: the wording for a reader;
* `Report.toJson`: an object with the kind of the report and its fields.
-/
import DaemonConsole.Json.Value

namespace DaemonConsole

/-- One message for the operator. -/
inductive Report where
  /-- The text that a command gave. -/
  | output (text : String)
  /-- The typed word names no command of the active menu. -/
  | unknownCommand (name : String)
  /-- The daemon refused the command; `help` is the command's description. -/
  | commandFailed (command reason help : String)
  /-- The command never reached the daemon. -/
  | sendFailed (reason : String)
  /-- The menu of a layer could not be fetched; the console stays at the root. -/
  | loadFailed (layer reason : String)
  /-- The operator interrupted while a command was in flight. -/
  | interrupted
  deriving DecidableEq, Repr

namespace Report

/-- Whether the report belongs on the error stream. -/
def isError : Report → Bool
  | output _ => false
  | _ => true

/-- The wording of a report. -/
def message : Report → String
  | output text => text
  | unknownCommand name => s!"{name}: no such command"
  | commandFailed command reason help =>
    s!"{command}: {reason}" ++ if help = "" then "" else s!"\n  {command} {help}"
  | sendFailed _ => "failed to send command to daemon"
  | loadFailed layer reason => s!"cannot load commands for layer {layer}: {reason}"
  | interrupted => "interrupted; waiting for the daemon to answer"

/-- A report as a JSON object, its kind first. -/
def toJson : Report → Json
  | output text => .object [("kind", .text "output"), ("text", .text text)]
  | unknownCommand name => .object [("kind", .text "unknown_command"), ("name", .text name)]
  | commandFailed command reason help =>
    .object [("kind", .text "command_failed"), ("command", .text command),
      ("reason", .text reason), ("help", .text help)]
  | sendFailed reason => .object [("kind", .text "send_failed"), ("reason", .text reason)]
  | loadFailed layer reason =>
    .object [("kind", .text "load_failed"), ("layer", .text layer), ("reason", .text reason)]
  | interrupted => .object [("kind", .text "interrupted")]

/-- The report that a JSON object describes. -/
def ofJson? (j : Json) : Option Report := do
  let field (key : String) : Option String := (j.get? key).bind Json.text?
  match ← field "kind" with
  | "output" => return output (← field "text")
  | "unknown_command" => return unknownCommand (← field "name")
  | "command_failed" =>
    return commandFailed (← field "command") (← field "reason") (← field "help")
  | "send_failed" => return sendFailed (← field "reason")
  | "load_failed" => return loadFailed (← field "layer") (← field "reason")
  | "interrupted" => return interrupted
  | _ => none

end Report

end DaemonConsole
