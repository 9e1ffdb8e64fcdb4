/-
The network layer: static routes and the reachability they give.

A route sends the addresses of a subnet to a gateway of the same family. An address is reached
directly when it is the host's own, and otherwise through the gateway of the longest subnet that
covers it; among covering subnets of one length the greatest address wins.

* `Routes.best`: that choice;
* `Routes.ping`, `Routes.list`, `Routes.add`, `Routes.remove`: the commands over argument texts;
* `Routes.execute`: a command by its identifier in `Routes.menu`.

A command answers, and leaves the routes behind whether it succeeds or not.
-/
import DaemonConsole.Layer.Fault
import DaemonConsole.Menu.Basic
import DaemonConsole.Table

namespace DaemonConsole

instance : Ranked Subnet where
  rank := Subnet.rank
  rank_injective := Subnet.rank_injective

/-- The static routes: a gateway for each subnet. -/
structure Routes where
  gateways : Table Subnet IpAddr

namespace Routes

/-- No routes. -/
def initial : Routes := ⟨.empty⟩

/-- The commands of the layer. -/
def menu : Menu :=
  ⟨[⟨0, "ping", "<addr> - check reachability of an address"⟩,
    ⟨1, "routes", "- list static routes"⟩,
    ⟨2, "addroute", "<prefix> <gateway> - add a static route"⟩,
    ⟨3, "delroute", "<prefix> - remove a static route"⟩]⟩

/-- The later one of two routes unless the earlier one is longer. -/
def longer (best : Option (Subnet × IpAddr)) (route : Subnet × IpAddr) :
    Option (Subnet × IpAddr) :=
  match best with
  | none => some route
  | some kept => if kept.1.length ≤ route.1.length then some route else some kept

/-- The route that an address takes. -/
def best (s : Routes) (target : IpAddr) : Option (Subnet × IpAddr) :=
  (s.gateways.entries.filter fun route => route.1.covers target).foldl longer none

/-- Tells how an address is reached. -/
def ping (s : Routes) (args : String) : Except LayerError String × Routes :=
  match Text.words args with
  | [word] =>
    match IpAddr.parse? word with
    | none => (.error (.usage (.badAddress word)), s)
    | some target =>
      if target.isLoopback then (.ok ("reply from " ++ target.print ++ ": local"), s)
      else
        match s.best target with
        | some (_, gateway) =>
          (.ok ("reply from " ++ target.print ++ " via " ++ gateway.print), s)
        | none => (.error (.rejected (.unreachable target)), s)
  | _ => (.error (.usage .notOneAddress), s)

/-- The line that shows a route. -/
def line (route : Subnet × IpAddr) : String :=
  Text.padRight 20 route.1.print ++ " via " ++ route.2.print

/-- Shows every route on a line of its own. -/
def list (s : Routes) (args : String) : Except LayerError String × Routes :=
  match Text.words args with
  | [] =>
    if s.gateways.isEmpty then (.ok "no routes", s)
    else (.ok (Text.joinLines (s.gateways.entries.map line)), s)
  | _ => (.error (.usage (.argumentsAfter "routes")), s)

/-- Adds a route for a subnet that has none. -/
def add (s : Routes) (args : String) : Except LayerError String × Routes :=
  match Text.words args with
  | [subnetWord, gatewayWord] =>
    match Subnet.parse? subnetWord, IpAddr.parse? gatewayWord with
    | none, _ => (.error (.usage (.badSubnet subnetWord)), s)
    | some _, none => (.error (.usage (.badGateway gatewayWord)), s)
    | some subnet, some gateway =>
      if subnet.address.isV4 != gateway.isV4 then (.error (.usage .mixedFamilies), s)
      else if s.gateways.contains subnet then (.error (.rejected (.routeExists subnet)), s)
      else
        (.ok ("added " ++ subnet.print ++ " via " ++ gateway.print),
          ⟨s.gateways.insert subnet gateway⟩)
  | _ => (.error (.usage .notPrefixAndGateway), s)

/-- Removes the route of a subnet. The table is written before it is known whether there was one. -/
def remove (s : Routes) (args : String) : Except LayerError String × Routes :=
  match Text.words args with
  | [word] =>
    match Subnet.parse? word with
    | none => (.error (.usage (.badSubnet word)), s)
    | some subnet =>
      if s.gateways.contains subnet then
        (.ok ("removed " ++ subnet.print), ⟨s.gateways.erase subnet⟩)
      else (.error (.rejected (.noRoute subnet)), ⟨s.gateways.erase subnet⟩)
  | _ => (.error (.usage .notOneSubnet), s)

/-- Runs the command with an identifier. -/
def execute (s : Routes) (id : CommandId) (args : String) : Except LayerError String × Routes :=
  match id.toNat with
  | 0 => s.ping args
  | 1 => s.list args
  | 2 => s.add args
  | 3 => s.remove args
  | _ => (.error (.unknownCommand id), s)

end Routes

end DaemonConsole
