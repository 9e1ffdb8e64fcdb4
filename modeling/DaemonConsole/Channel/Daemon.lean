/-
The daemon inside the console's own process: a table of running layers that serves the control
channel directly.

* `Daemon.ofLayers`: a daemon that runs some layers, a later one replacing one of its identifier;
* `Daemon.execute`: a command of a running layer, which is put back as the command leaves it.
-/
import DaemonConsole.Channel.Basic
import DaemonConsole.Layer.Basic

namespace DaemonConsole

/-- The running layers by their identifiers. -/
structure Daemon where
  layers : Table LayerId Layer

/-- What a layer answers, as the channel hands it on: a refusal is handed on by its wording. -/
def relay : Except LayerError String → Except ExecError String
  | .ok reply => .ok reply
  | .error fault => .error (.command fault.message)

namespace Daemon

/-- The daemon that runs nothing. -/
def empty : Daemon := ⟨.empty⟩

/-- Runs a layer, in place of the one of its identifier. -/
def insert (d : Daemon) (l : Layer) : Daemon :=
  ⟨d.layers.insert l.id l⟩

/-- The daemon that runs some layers. -/
def ofLayers (layers : List Layer) : Daemon :=
  layers.foldl insert empty

/-- The identifiers of the running layers in ascending order. -/
def running (d : Daemon) : List LayerId :=
  d.layers.keys

/-- The menu of a running layer. -/
def getMenu (d : Daemon) (layer : LayerId) : Except LoadError Menu :=
  match d.layers.get? layer with
  | some l => .ok l.menu
  | none => .error (.notRunning layer)

/-- Runs a command of a running layer. -/
def execute (d : Daemon) (layer : LayerId) (command : CommandId) (args : String) :
    Except ExecError String × Daemon :=
  match d.layers.get? layer with
  | none => (.error (.transport (notRunningText layer)), d)
  | some l =>
    let (answer, l) := l.execute command args
    (relay answer, ⟨d.layers.insert layer l⟩)

instance : ControlChannel Daemon where
  getMenu d layer := (d.getMenu layer, d)
  execute := execute
  takesTime _ := false

end Daemon

end DaemonConsole
