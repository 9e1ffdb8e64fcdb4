/-
The link layer: network interfaces, their state and their MTU.

The interfaces of a host are fixed; commands change whether one is up and how large its frames are.

* `Interfaces.setState`, `Interfaces.setMtu`, `Interfaces.list`: the commands over argument texts;
* `Interfaces.execute`: a command by its identifier in `Interfaces.menu`.

A command answers, and leaves the interfaces behind whether it succeeds or not.
-/
import DaemonConsole.Layer.Fault
import DaemonConsole.Menu.Basic

namespace DaemonConsole

/-- The settings of one interface. -/
structure Interface where
  up : Bool
  mtu : Nat
  deriving DecidableEq, Repr

/-- The interfaces of a host in the order of their names. -/
structure Interfaces where
  entries : List (String × Interface)
  deriving DecidableEq, Repr

namespace Interfaces

/-- The smallest frame size. -/
def minMtu : Nat := 68

/-- The largest frame size. -/
def maxMtu : Nat := 65535

/-- One ethernet interface that is down and the loopback interface. -/
def initial : Interfaces :=
  ⟨[("eth0", ⟨false, 1500⟩), ("lo", ⟨true, maxMtu⟩)]⟩

/-- The commands of the layer. -/
def menu : Menu :=
  ⟨[⟨0, "show", "- list interfaces"⟩,
    ⟨1, "up", "<iface> - bring an interface up"⟩,
    ⟨2, "down", "<iface> - take an interface down"⟩,
    ⟨3, "mtu", "<iface> <bytes> - set the interface MTU"⟩]⟩

/-- The settings of an interface. -/
def get? (s : Interfaces) (name : String) : Option Interface :=
  s.entries.lookup name

/-- Changes the settings of the interface with a name. -/
def modify (s : Interfaces) (name : String) (f : Interface → Interface) : Interfaces :=
  ⟨s.entries.map fun (n, i) => (n, if n = name then f i else i)⟩

/-- Changes an interface that has to exist. -/
def change (s : Interfaces) (name : String) (f : Interface → Interface) (reply : String) :
    Except LayerError String × Interfaces :=
  match s.get? name with
  | none => (.error (.rejected (.noInterface name)), s)
  | some _ => (.ok reply, s.modify name f)

/-- The word for a state. -/
def stateWord (up : Bool) : String :=
  if up then "up" else "down"

/-- Brings the named interface up or takes it down. -/
def setState (s : Interfaces) (up : Bool) (args : String) :
    Except LayerError String × Interfaces :=
  match Text.words args with
  | [name] => s.change name (fun i => { i with up }) (name ++ " " ++ stateWord up)
  | _ => (.error (.usage .notOneInterface), s)

/-- Sets the frame size of the named interface. -/
def setMtu (s : Interfaces) (args : String) : Except LayerError String × Interfaces :=
  match Text.words args with
  | [name, size] =>
    match Numeral.read? UInt32.size size with
    | none => (.error (.usage (.badMtu size)), s)
    | some mtu =>
      if minMtu ≤ mtu ∧ mtu ≤ maxMtu then
        s.change name (fun i => { i with mtu }) (name ++ " mtu " ++ toString mtu)
      else (.error (.usage (.mtuOutOfRange minMtu maxMtu)), s)
  | _ => (.error (.usage .notInterfaceAndSize), s)

/-- The line that shows an interface. -/
def line (name : String) (i : Interface) : String :=
  Text.padRight 8 name ++ " " ++ Text.padRight 5 (stateWord i.up) ++ " mtu " ++ toString i.mtu

/-- Shows every interface on a line of its own. -/
def list (s : Interfaces) (args : String) : Except LayerError String × Interfaces :=
  match Text.words args with
  | [] => (.ok (Text.joinLines (s.entries.map fun (name, i) => line name i)), s)
  | _ => (.error (.usage (.argumentsAfter "show")), s)

/-- Runs the command with an identifier. -/
def execute (s : Interfaces) (id : CommandId) (args : String) :
    Except LayerError String × Interfaces :=
  match id.toNat with
  | 0 => s.list args
  | 1 => s.setState true args
  | 2 => s.setState false args
  | 3 => s.setMtu args
  | _ => (.error (.unknownCommand id), s)

end Interfaces

end DaemonConsole
