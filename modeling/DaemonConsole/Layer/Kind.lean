/-
Kinds of layers.

A kind is named in configurations by its canonical name or an alias, in any letter case.
-/
import DaemonConsole.Text.Lowercase

namespace DaemonConsole

/-- What a layer deals with. -/
inductive LayerKind where
  /-- Interfaces. -/
  | link
  /-- Routes and reachability. -/
  | net
  /-- Datagram sockets. -/
  | udp
  /-- Stream connections. -/
  | tcp
  deriving DecidableEq, Repr

namespace LayerKind

/-- All kinds, from the bottom of the stack up. -/
def all : List LayerKind := [link, net, udp, tcp]

/-- The canonical name. -/
def name : LayerKind → String
  | link => "link"
  | net => "net"
  | udp => "udp"
  | tcp => "tcp"

/-- The kind of a name or an alias. -/
def parse? (s : String) : Option LayerKind :=
  match Text.lowercase s with
  | "link" => some link
  | "net" | "network" => some net
  | "udp" | "unreliable" => some udp
  | "tcp" | "reliable" => some tcp
  | _ => none

/-- The description that a layer of the kind has in the root menu when it is given none. -/
def description : LayerKind → String
  | link => "link layer: interfaces and MTU"
  | net => "network layer: routes and reachability"
  | udp => "unreliable transport: datagram sockets"
  | tcp => "reliable transport: stream connections"

end LayerKind

end DaemonConsole
