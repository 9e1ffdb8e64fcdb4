/-
The control channel between the console and the daemon.

The console asks for the menu of a layer when it enters the layer, and for a command to be run
inside it. A channel is a state with these two requests; each gives an answer and the state after
it.

* `ControlChannel`: the two requests, and whether running a command takes time;
* `Exchange`: one request with its answer;
* `Recorder`: a channel that keeps every exchange.
-/
import DaemonConsole.Menu.Basic

namespace DaemonConsole

/-- Why the menu of a layer cannot be had. -/
inductive LoadError where
  /-- No layer runs under this identifier. -/
  | notRunning (layer : LayerId)
  deriving DecidableEq, Repr

/-- How it is said that no layer runs under an identifier. -/
def notRunningText (layer : LayerId) : String :=
  "layer " ++ toString layer.toNat ++ " is not running"

/-- The wording of a failed load. -/
def LoadError.message : LoadError → String
  | notRunning layer => notRunningText layer

/-- Why a command gave no output. -/
inductive ExecError where
  /-- The daemon received the command and refused it. -/
  | command (reason : String)
  /-- The command could not be delivered. -/
  | transport (reason : String)
  deriving DecidableEq, Repr

/-- The wording of a failed command. -/
def ExecError.message : ExecError → String
  | command reason => reason
  | transport reason => "transport failure: " ++ reason

/-- A way to reach the daemon, with `σ` the state behind it. -/
class ControlChannel (σ : Type) where
  /-- Asks for the menu of a layer. -/
  getMenu : σ → LayerId → Except LoadError Menu × σ
  /-- Runs a command inside a layer and gives its output. -/
  execute : σ → LayerId → CommandId → String → Except ExecError String × σ
  /-- Whether a command is in flight long enough to be interrupted. -/
  takesTime : σ → Bool

/-- A request with its answer. -/
inductive Exchange where
  | getMenu (layer : LayerId) (answer : Except LoadError Menu)
  | execute (layer : LayerId) (command : CommandId) (args : String)
      (answer : Except ExecError String)

/-- A channel together with the exchanges it has had, the oldest first. -/
structure Recorder (σ : Type) where
  channel : σ
  exchanges : List Exchange

namespace Recorder

/-- A channel with an empty record. -/
def start {σ : Type} (channel : σ) : Recorder σ := ⟨channel, []⟩

instance {σ : Type} [ControlChannel σ] : ControlChannel (Recorder σ) where
  getMenu r layer :=
    let (answer, channel) := ControlChannel.getMenu r.channel layer
    (answer, ⟨channel, r.exchanges ++ [.getMenu layer answer]⟩)
  execute r layer command args :=
    let (answer, channel) := ControlChannel.execute r.channel layer command args
    (answer, ⟨channel, r.exchanges ++ [.execute layer command args answer]⟩)
  takesTime r := ControlChannel.takesTime r.channel

end Recorder

end DaemonConsole
