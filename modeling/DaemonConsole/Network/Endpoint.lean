/-
Endpoints: an address with a port, and for 128-bit addresses a scope.

* `Endpoint.parse?`: `a.b.c.d:port`, or `[address]:port` with `%scope` allowed before the bracket;
* `Endpoint.print`: the same form, a scope of zero left out.
-/
import DaemonConsole.Network.Address

namespace DaemonConsole

/-- A port number. -/
abbrev Port := UInt16

/-- Where a connection goes to. -/
inductive Endpoint where
  | v4 (address : BitVec 32) (port : Port)
  | v6 (address : BitVec 128) (scope : UInt32) (port : Port)
  deriving DecidableEq, Repr

namespace Endpoint

/-- The port of the endpoint. -/
def port : Endpoint → Port
  | v4 _ p => p
  | v6 _ _ p => p

/-! ### Reading -/

/-- Takes a colon and a port off a text. -/
def readPort (cs : List Char) : Option (Port × List Char) := do
  let (n, rest) ← Reading.boundedDigits UInt16.size (← Reading.char ':' cs)
  return (UInt16.ofNat n, rest)

/-- Takes a percent sign and a scope off a text; a text without them has scope zero. -/
def readScope (cs : List Char) : UInt32 × List Char :=
  match (Reading.char '%' cs).bind (Reading.boundedDigits UInt32.size) with
  | some (n, rest) => (UInt32.ofNat n, rest)
  | none => (0, cs)

/-- Takes an endpoint with a 32-bit address off a text. -/
def readV4 (cs : List Char) : Option (Endpoint × List Char) := do
  let (address, cs) ← IpAddr.readV4 cs
  let (port, cs) ← readPort cs
  return (v4 address port, cs)

/-- Takes an endpoint with a 128-bit address off a text. -/
def readV6 (cs : List Char) : Option (Endpoint × List Char) := do
  let (address, cs) ← IpAddr.readV6 (← Reading.char '[' cs)
  let (scope, cs) := readScope cs
  let (port, cs) ← readPort (← Reading.char ']' cs)
  return (v6 address scope port, cs)

/-- Reads a text that is one endpoint and nothing else. -/
def parse? (s : String) : Option Endpoint :=
  match (readV4 s.toList).or (readV6 s.toList) with
  | some (e, []) => some e
  | _ => none

/-! ### Printing -/

/-- The text of an endpoint. -/
def print : Endpoint → String
  | v4 address port => IpAddr.printDotted address.toNat ++ ":" ++ toString port.toNat
  | v6 address scope port =>
    let zone := if scope = 0 then "" else "%" ++ toString scope.toNat
    "[" ++ IpAddr.printV6 address ++ zone ++ "]:" ++ toString port.toNat

end Endpoint

end DaemonConsole
