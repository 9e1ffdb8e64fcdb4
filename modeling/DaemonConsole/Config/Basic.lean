/-
Configurations: the settings of the console and the layers of its root menu.

* `Config.rootMenu`: one command for each layer, in order;
* `Config.daemon`: the daemon that runs the enabled layers;
* `Config.startDaemon`: the daemon as it is started, with the commands of each layer checked.
-/
import DaemonConsole.Channel.Daemon
import DaemonConsole.Error

namespace DaemonConsole

/-- The settings of the console. -/
structure ConsoleSettings where
  /-- The product name in the prompt. -/
  product : String := "stackd"
  /-- Where the history of the line editor is kept, when not in its usual place. -/
  historyFile : Option String := none
  /-- How many lines of history are kept. -/
  historySize : UInt64 := 100
  deriving DecidableEq, Repr

/-- The settings of one layer. -/
structure LayerSettings where
  id : LayerId
  /-- The name typed at the root and shown in the prompt. -/
  name : String
  kind : LayerKind
  /-- The description in the root menu, when not that of the kind. -/
  description : Option String := none
  /-- Whether the daemon runs the layer. -/
  enabled : Bool := true
  deriving DecidableEq, Repr

/-- The description that a layer has in the root menu. -/
def LayerSettings.effectiveDescription (l : LayerSettings) : String :=
  l.description.getD l.kind.description

/-- A layer in its initial state. -/
def LayerSettings.build (l : LayerSettings) : Layer :=
  .build l.kind l.id l.name

/-- The commands of a kind, each of them checked. -/
def LayerKind.checkedMenu (kind : LayerKind) : Except CommandError Menu :=
  Menu.ofFields (kind.menu.commands.map fun c => (c.id, c.name, c.description))

/-- Starts a layer over what runs already, once its commands are checked. -/
def Daemon.start (d : Daemon) (l : LayerSettings) : Except ConsoleError Daemon :=
  match l.kind.checkedMenu with
  | .error fault => .error (.layer fault.message)
  | .ok _ => .ok (d.insert l.build)

/-- One layer of each kind under its own name, numbered from one. -/
def defaultLayers : List LayerSettings :=
  [{ id := 1, name := LayerKind.link.name, kind := .link },
    { id := 2, name := LayerKind.net.name, kind := .net },
    { id := 3, name := LayerKind.udp.name, kind := .udp },
    { id := 4, name := LayerKind.tcp.name, kind := .tcp }]

/-- A whole configuration. -/
structure Config where
  console : ConsoleSettings := {}
  layers : List LayerSettings := defaultLayers
  deriving DecidableEq, Repr

namespace Config

/-- The root menu: one command for each layer, each of them checked. -/
def rootMenu (c : Config) : Except CommandError Menu :=
  Menu.ofFields (c.layers.map fun l => (l.id, l.name, l.effectiveDescription))

/-- The daemon that runs the enabled layers. -/
def daemon (c : Config) : Daemon :=
  .ofLayers ((c.layers.filter (·.enabled)).map LayerSettings.build)

/-- The daemon as it is started: one enabled layer after another. -/
def startDaemon (c : Config) : Except ConsoleError Daemon :=
  (c.layers.filter (·.enabled)).foldlM Daemon.start .empty

end Config

end DaemonConsole
