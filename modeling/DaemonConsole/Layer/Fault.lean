/-
Why a layer refuses a command.

A command is unknown to the layer, or its arguments are not of the form it takes, or they are and
the state of the layer does not allow it. Each cause names what is wrong with which word; the
wording is in `LayerError.message`.
-/
import DaemonConsole.Menu.Command
import DaemonConsole.Network.Subnet

namespace DaemonConsole

/-- How the arguments of a command miss its form. -/
inductive Usage where
  | argumentsAfter (command : String)
  | notOneInterface
  | notInterfaceAndSize
  | badMtu (word : String)
  | mtuOutOfRange (least greatest : Nat)
  | notOneAddress
  | badAddress (word : String)
  | notPrefixAndGateway
  | badSubnet (word : String)
  | badGateway (word : String)
  | mixedFamilies
  | notOneSubnet
  | notOnePort
  | badPort (word : String)
  | notOneEndpoint
  | badEndpoint (word : String)
  | zeroPort
  | notOneConnection
  | badConnection (word : String)
  deriving DecidableEq, Repr

/-- What in the state of a layer stands against a command. -/
inductive Rejection where
  | noInterface (name : String)
  | unreachable (address : IpAddr)
  | routeExists (subnet : Subnet)
  | noRoute (subnet : Subnet)
  | alreadyBound (port : UInt16)
  | notBound (port : UInt16)
  | alreadyListening (port : UInt16)
  | numbersExhausted
  | noConnection (number : UInt32)
  deriving DecidableEq, Repr

/-- Why a layer refuses a command. -/
inductive LayerError where
  | unknownCommand (id : CommandId)
  | usage (cause : Usage)
  | rejected (cause : Rejection)
  deriving DecidableEq, Repr

/-- The wording of a misused form. -/
def Usage.message : Usage → String
  | argumentsAfter command => s!"{command} takes no arguments"
  | notOneInterface => "expected exactly one interface name"
  | notInterfaceAndSize => "expected an interface name and a size"
  | badMtu word => s!"invalid MTU '{word}'"
  | mtuOutOfRange least greatest => s!"MTU must be between {least} and {greatest}"
  | notOneAddress => "expected exactly one address"
  | badAddress word => s!"invalid address '{word}'"
  | notPrefixAndGateway => "expected a prefix and a gateway"
  | badSubnet word => s!"invalid prefix '{word}'"
  | badGateway word => s!"invalid gateway '{word}'"
  | mixedFamilies => "prefix and gateway address families differ"
  | notOneSubnet => "expected exactly one prefix"
  | notOnePort => "expected exactly one port"
  | badPort word => s!"invalid port '{word}'"
  | notOneEndpoint => "expected exactly one host:port"
  | badEndpoint word => s!"invalid endpoint '{word}'"
  | zeroPort => "port 0 is not connectable"
  | notOneConnection => "expected exactly one connection number"
  | badConnection word => s!"invalid connection number '{word}'"

/-- The wording of a rejection. -/
def Rejection.message : Rejection → String
  | noInterface name => s!"no such interface '{name}'"
  | unreachable address => address.print ++ ": network unreachable"
  | routeExists subnet => "route " ++ subnet.print ++ " already exists"
  | noRoute subnet => "no route for " ++ subnet.print
  | alreadyBound port => "udp/" ++ toString port.toNat ++ " is already bound"
  | notBound port => "udp/" ++ toString port.toNat ++ " is not bound"
  | alreadyListening port => "tcp/" ++ toString port.toNat ++ " is already listening"
  | numbersExhausted => "connection numbers exhausted"
  | noConnection number => "no connection " ++ toString number.toNat

/-- The wording of a refusal. -/
def LayerError.message : LayerError → String
  | unknownCommand id => "unknown command id " ++ toString id.toNat
  | usage cause => cause.message
  | rejected cause => cause.message

end DaemonConsole
