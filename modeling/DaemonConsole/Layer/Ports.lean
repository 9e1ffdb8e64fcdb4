/-
Port arguments, shared by the transport layers.
-/
import DaemonConsole.Layer.Fault
import DaemonConsole.Network.Endpoint
import DaemonConsole.Table

namespace DaemonConsole

/-- A set of ports in ascending order. -/
abbrev PortSet := Table Port Unit

/-- Reads the arguments of a command that takes one port, which is a 16-bit number other than
zero. -/
def Port.ofArguments (args : String) : Except LayerError Port :=
  match Text.words args with
  | [word] =>
    match Numeral.readUInt16? word with
    | none => .error (.usage (.badPort word))
    | some port => if port = 0 then .error (.usage (.badPort word)) else .ok port
  | _ => .error (.usage .notOnePort)

end DaemonConsole
