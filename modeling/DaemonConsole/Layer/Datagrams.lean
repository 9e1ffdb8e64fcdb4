/-
The unreliable transport: ports with a bound datagram socket.

* `Datagrams.bind`, `Datagrams.unbind`, `Datagrams.list`: the commands over argument texts;
* `Datagrams.execute`: a command by its identifier in `Datagrams.menu`.

A command answers, and leaves the ports behind whether it succeeds or not.
-/
import DaemonConsole.Layer.Ports
import DaemonConsole.Menu.Basic

namespace DaemonConsole

/-- The ports with a bound datagram socket. -/
structure Datagrams where
  bound : PortSet

namespace Datagrams

/-- No bound ports. -/
def initial : Datagrams := ⟨.empty⟩

/-- The commands of the layer. -/
def menu : Menu :=
  ⟨[⟨0, "bind", "<port> - open a datagram socket"⟩,
    ⟨1, "unbind", "<port> - close a datagram socket"⟩,
    ⟨2, "sockets", "- list bound ports"⟩]⟩

/-- How a port is shown. -/
def printPort (port : Port) : String :=
  "udp/" ++ toString port.toNat

/-- Binds a port that is free. The set is written before it is known whether it is. -/
def bind (s : Datagrams) (args : String) : Except LayerError String × Datagrams :=
  match Port.ofArguments args with
  | .error fault => (.error fault, s)
  | .ok port =>
    if s.bound.contains port then
      (.error (.rejected (.alreadyBound port)), ⟨s.bound.insert port ()⟩)
    else (.ok ("bound " ++ printPort port), ⟨s.bound.insert port ()⟩)

/-- Frees a port that is bound. The set is written before it is known whether it is. -/
def unbind (s : Datagrams) (args : String) : Except LayerError String × Datagrams :=
  match Port.ofArguments args with
  | .error fault => (.error fault, s)
  | .ok port =>
    if s.bound.contains port then (.ok ("closed " ++ printPort port), ⟨s.bound.erase port⟩)
    else (.error (.rejected (.notBound port)), ⟨s.bound.erase port⟩)

/-- Shows every bound port on a line of its own. -/
def list (s : Datagrams) (args : String) : Except LayerError String × Datagrams :=
  match Text.words args with
  | [] =>
    if s.bound.isEmpty then (.ok "no sockets", s)
    else (.ok (Text.joinLines (s.bound.keys.map printPort)), s)
  | _ => (.error (.usage (.argumentsAfter "sockets")), s)

/-- Runs the command with an identifier. -/
def execute (s : Datagrams) (id : CommandId) (args : String) :
    Except LayerError String × Datagrams :=
  match id.toNat with
  | 0 => s.bind args
  | 1 => s.unbind args
  | 2 => s.list args
  | _ => (.error (.unknownCommand id), s)

end Datagrams

end DaemonConsole
