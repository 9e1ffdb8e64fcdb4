/-
The reliable transport: listening ports and numbered connections.

Connections are numbered from one and a number is never given twice.

* `Streams.listen`, `Streams.connect`, `Streams.close`, `Streams.list`: the commands over argument
  texts;
* `Streams.execute`: a command by its identifier in `Streams.menu`.

A command answers, and leaves the state behind whether it succeeds or not.
-/
import DaemonConsole.Layer.Ports
import DaemonConsole.Menu.Basic

namespace DaemonConsole

/-- Listening ports, open connections and the number of the next connection. -/
structure Streams where
  listeners : PortSet
  connections : Table UInt32 Endpoint
  nextNumber : UInt32

namespace Streams

/-- Nothing listens and nothing is connected. -/
def initial : Streams := ⟨.empty, .empty, 1⟩

/-- The commands of the layer. -/
def menu : Menu :=
  ⟨[⟨0, "listen", "<port> - accept connections on a port"⟩,
    ⟨1, "connect", "<host:port> - open a connection"⟩,
    ⟨2, "close", "<conn> - close a connection by number"⟩,
    ⟨3, "conns", "- list listeners and connections"⟩]⟩

/-- How a listening port is shown. -/
def printPort (port : Port) : String :=
  "tcp/" ++ toString port.toNat

/-- How a connection and its endpoint are named in a reply. -/
def printConnection (number : UInt32) (endpoint : Endpoint) : String :=
  "connection " ++ toString number.toNat ++ " to " ++ endpoint.print

/-- Listens on a port that is free. The set is written before it is known whether it is. -/
def listen (s : Streams) (args : String) : Except LayerError String × Streams :=
  match Port.ofArguments args with
  | .error fault => (.error fault, s)
  | .ok port =>
    if s.listeners.contains port then
      (.error (.rejected (.alreadyListening port)),
        { s with listeners := s.listeners.insert port () })
    else
      (.ok ("listening on " ++ printPort port), { s with listeners := s.listeners.insert port () })

/-- Opens a connection under the next number; the last number is never given. -/
def connect (s : Streams) (args : String) : Except LayerError String × Streams :=
  match Text.words args with
  | [word] =>
    match Endpoint.parse? word with
    | none => (.error (.usage (.badEndpoint word)), s)
    | some endpoint =>
      if endpoint.port = 0 then (.error (.usage .zeroPort), s)
      else if s.nextNumber.toNat + 1 = UInt32.size then (.error (.rejected .numbersExhausted), s)
      else
        (.ok (printConnection s.nextNumber endpoint ++ " established"),
          { s with
            connections := s.connections.insert s.nextNumber endpoint
            nextNumber := s.nextNumber + 1 })
  | _ => (.error (.usage .notOneEndpoint), s)

/-- Closes the connection with a number. The table is written before it is known whether there is
one. -/
def close (s : Streams) (args : String) : Except LayerError String × Streams :=
  match Text.words args with
  | [word] =>
    match Numeral.readUInt32? word with
    | none => (.error (.usage (.badConnection word)), s)
    | some number =>
      match s.connections.get? number with
      | some endpoint =>
        (.ok (printConnection number endpoint ++ " closed"),
          { s with connections := s.connections.erase number })
      | none =>
        (.error (.rejected (.noConnection number)),
          { s with connections := s.connections.erase number })
  | _ => (.error (.usage .notOneConnection), s)

/-- The line that shows a listening port. -/
def listenerLine (port : Port) : String :=
  "listen  " ++ printPort port

/-- The line that shows a connection. -/
def connectionLine (connection : UInt32 × Endpoint) : String :=
  "conn " ++ Text.padRight 3 (toString connection.1.toNat) ++ " " ++ connection.2.print

/-- Shows every listening port and then every connection on a line of its own. -/
def list (s : Streams) (args : String) : Except LayerError String × Streams :=
  match Text.words args with
  | [] =>
    match s.listeners.keys.map listenerLine ++ s.connections.entries.map connectionLine with
    | [] => (.ok "no connections", s)
    | lines => (.ok (Text.joinLines lines), s)
  | _ => (.error (.usage (.argumentsAfter "conns")), s)

/-- Runs the command with an identifier. -/
def execute (s : Streams) (id : CommandId) (args : String) :
    Except LayerError String × Streams :=
  match id.toNat with
  | 0 => s.listen args
  | 1 => s.connect args
  | 2 => s.close args
  | 3 => s.list args
  | _ => (.error (.unknownCommand id), s)

end Streams

end DaemonConsole
