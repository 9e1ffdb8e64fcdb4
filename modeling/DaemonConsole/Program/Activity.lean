/-
What the program logs while it runs.

* `loading`, `started`: reading the configuration and starting the daemon;
* `ofEvent`: the entries of one event of the console loop.
-/
import DaemonConsole.Config.Basic
import DaemonConsole.Console.Loop
import DaemonConsole.Log.Filter
import DaemonConsole.Text.Quoted

namespace DaemonConsole.Program.Activity

/-- The part of the program that sets a run up. -/
def mainTarget : String := "stackctl"

/-- The part that hosts the layers. -/
def daemonTarget : String := "stackctl::channel::local"

/-- The part that moves between the layers. -/
def sessionTarget : String := "stackctl::console::navigator"

/-- The console loop. -/
def loopTarget : String := "stackctl::shell"

/-- The source that reads scripts. -/
def scriptTarget : String := "stackctl::shell::script"

/-- A layer identifier as a value. -/
def layerValue (layer : LayerId) : String × String :=
  ("layer", toString layer.toNat)

/-- The configuration is about to be read. -/
def loading (path : String) : Log.Entry :=
  ⟨.info, mainTarget, "Loading config from: " ++ path, []⟩

/-- The layers of a configuration run in its daemon. -/
def started (c : Config) (daemon : Daemon) : List Log.Entry :=
  (c.layers.filter (·.enabled)).map (fun l =>
      ⟨.debug, daemonTarget, "Layer running",
        [("id", toString l.id.toNat), ("name", Text.quoted l.name)]⟩)
    ++ [⟨.info, daemonTarget, "In-process daemon started",
        [("layers", toString daemon.running.length)]⟩]

/-- An error ends the program. -/
def failed (category text : String) : Log.Entry :=
  ⟨.error, mainTarget, category ++ ": " ++ text, []⟩

/-- A command goes to a layer whose name is `host`. -/
def sending (layer : LayerId) (command : Command) (args host : String) : List Log.Entry :=
  [⟨.debug, sessionTarget, "Sending command",
      [layerValue layer, ("command", command.name), ("args", Text.quoted args)]⟩,
    ⟨.debug, daemonTarget, "Executing command",
      [("layer", Text.quoted host), ("command", toString command.id.toNat),
        ("args", Text.quoted args)]⟩]

/-- The entries of a line that was carried out; `nameOf` gives the names of hosted layers. -/
def ofDispatch (nameOf : LayerId → String) (action : Action) (outcome : Outcome) :
    List Log.Entry :=
  match action, outcome.reports with
  | .unresolved name, _ =>
    [⟨.debug, sessionTarget, "Unknown command", [("token", Text.quoted name)]⟩]
  | .enter layer, [] => [⟨.debug, sessionTarget, "Entered layer", [layerValue layer]⟩]
  | .enter layer, .loadFailed _ reason :: _ =>
    [⟨.warn, sessionTarget, "Layer load failed", [layerValue layer, ("error", reason)]⟩]
  | .run layer command args, .sendFailed reason :: _ =>
    sending layer command args (nameOf layer)
      ++ [⟨.warn, sessionTarget, "Failed to send command",
          [layerValue layer, ("command", command.name), ("reason", reason)]⟩]
  | .run layer command args, _ => sending layer command args (nameOf layer)
  | _, _ => []

/-- The entries of an event; `number` counts the lines read up to it. -/
def ofEvent (nameOf : LayerId → String) (number : Nat) : Console.Event → List Log.Entry
  | .started prompt =>
    [⟨.info, loopTarget, "Console started", [("prompt", Text.quoted prompt)]⟩]
  | .read _ line wellFormed =>
    let place := ("line_number", toString number)
    (if wellFormed then []
      else [⟨.warn, scriptTarget, "Script line is not valid UTF-8", [place]⟩])
      ++ [⟨.trace, scriptTarget, "Script line", [place, ("line", line)]⟩]
  | .interrupted line =>
    [⟨.info, loopTarget, "Interrupt while a command was in flight", [("line", Text.quoted line)]⟩]
  | .interruptsUnavailable reason =>
    [⟨.debug, loopTarget, "Cannot listen for interrupts", [("error", reason)]⟩]
  | .dispatched action outcome => ofDispatch nameOf action outcome
  | .ended => [⟨.info, loopTarget, "End of input", []⟩]
  | .left => [⟨.info, loopTarget, "Exit requested", []⟩]
  | _ => []

end DaemonConsole.Program.Activity
