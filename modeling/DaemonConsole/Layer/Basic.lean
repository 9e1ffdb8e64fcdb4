/-
Layers: what the daemon hosts and the console enters.

A layer has an identifier, a name and a service, which is the state of its kind. Its menu depends on
the kind alone.

* `Layer.build`: a layer in the initial state of a kind;
* `Layer.execute`: a command of the layer, with its answer and the layer behind it.
-/
import DaemonConsole.Layer.Datagrams
import DaemonConsole.Layer.Interfaces
import DaemonConsole.Layer.Kind
import DaemonConsole.Layer.Routes
import DaemonConsole.Layer.Streams

namespace DaemonConsole

/-- The state of a layer of some kind. -/
inductive Service where
  | link (state : Interfaces)
  | net (state : Routes)
  | udp (state : Datagrams)
  | tcp (state : Streams)

namespace Service

/-- The initial state of a kind. -/
def initial : LayerKind → Service
  | .link => link .initial
  | .net => net .initial
  | .udp => udp .initial
  | .tcp => tcp .initial

/-- The kind of a state. -/
def kind : Service → LayerKind
  | link _ => .link
  | net _ => .net
  | udp _ => .udp
  | tcp _ => .tcp

/-- Runs a command on the state. -/
def execute (s : Service) (command : CommandId) (args : String) :
    Except LayerError String × Service :=
  match s with
  | link state => (state.execute command args).map id link
  | net state => (state.execute command args).map id net
  | udp state => (state.execute command args).map id udp
  | tcp state => (state.execute command args).map id tcp

end Service

/-- The commands of a kind of layer. -/
def LayerKind.menu : LayerKind → Menu
  | link => Interfaces.menu
  | net => Routes.menu
  | udp => Datagrams.menu
  | tcp => Streams.menu

/-- A layer that the daemon can host. -/
structure Layer where
  id : LayerId
  name : String
  service : Service

namespace Layer

/-- A layer of a kind in its initial state. -/
def build (kind : LayerKind) (id : LayerId) (name : String) : Layer :=
  ⟨id, name, .initial kind⟩

/-- The commands of the layer. -/
def menu (l : Layer) : Menu :=
  l.service.kind.menu

/-- Runs a command of the layer. -/
def execute (l : Layer) (command : CommandId) (args : String) :
    Except LayerError String × Layer :=
  let (answer, service) := l.service.execute command args
  (answer, { l with service })

end Layer

end DaemonConsole
