/-
Listings that can be typed back.

What a layer prints of a route or a connection can be given to it again: each is one word of its
line, and this word reads as what is stored.

* `Routes.Deletes`: a line whose first word deletes a route and nothing else;
* `Streams.Shows`: a line that names a connection and its endpoint;
* `printed_reads_back`: printed subnets are read back, every listed route can be deleted by the
  first word of its line, and every endpoint in a listing or a reply reads as the one that is
  stored.
-/
import DaemonConsole.Proofs.Layer.RouteTable
import DaemonConsole.Proofs.Network.Printed
import Mathlib.Data.List.Forall2

namespace DaemonConsole

/-! ### Routes -/

namespace Routes

/-- The first word of a line deletes a route and nothing else. -/
def Deletes (s : Routes) (line : String) (route : Subnet × IpAddr) : Prop :=
  ∃ word rest reply next, Text.words line = word :: rest ∧ s.remove word = (.ok reply, next) ∧
    ∀ subnet, next.gateways.get? subnet
      = if subnet = route.1 then none else s.gateways.get? subnet

/-- The words of the line of a route. -/
lemma words_line (route : Subnet × IpAddr) :
    Text.words (line route) = [route.1.print, "via", route.2.print] := by
  have hvia : Text.Word "via" := .of_all (by decide) (by decide)
  have hjoin : line route
      = Text.padRight 20 route.1.print ++ (" " ++ ("via" ++ (" " ++ route.2.print))) := by
    rw [line, String.append_assoc]
    rfl
  rw [hjoin, Text.words_padRight (Subnet.isWord_print route.1), Text.words_space hvia,
    (IpAddr.isWord_print route.2).words_eq]

/-- The line of a route is one line. -/
lemma feed_not_mem_line (route : Subnet × IpAddr) : '\n' ∉ (line route).toList := by
  intro hfeed
  simp only [line, String.toList_append, List.mem_append] at hfeed
  rcases hfeed with (hfeed | hfeed) | hfeed
  · exact (Subnet.isWord_print route.1).feed_not_mem_padRight 20 hfeed
  · exact absurd hfeed (by decide)
  · exact (IpAddr.isWord_print route.2).feed_not_mem hfeed

variable {s : Routes}

/-- A stored route is deleted by the printed text of its subnet. -/
lemma remove_print {route : Subnet × IpAddr} (h : route ∈ s.gateways.entries) :
    s.remove route.1.print
      = (.ok ("removed " ++ route.1.print), ⟨s.gateways.erase route.1⟩) :=
  remove_eq_ok_iff.mpr ⟨route.1.print, route.1, route.2, (Subnet.isWord_print route.1).words_eq,
    Subnet.parse?_print route.1, Table.mem_entries_iff.mp h, rfl, rfl⟩

/-- The line of a stored route deletes it and nothing else. -/
lemma deletes_line {route : Subnet × IpAddr} (h : route ∈ s.gateways.entries) :
    s.Deletes (line route) route := by
  refine ⟨_, _, _, _, words_line route, remove_print h, fun subnet => ?_⟩
  by_cases hsubnet : subnet = route.1
  · rw [if_pos hsubnet, hsubnet, Table.get?_erase_self]
  · rw [if_neg hsubnet, Table.get?_erase_of_ne _ (Ne.symm hsubnet)]

/-- The listing of routes has one line for each. -/
lemma exists_listing (hstored : s.gateways.entries ≠ []) {args : String}
    (hargs : Text.words args = []) :
    ∃ reply, s.list args = (.ok reply, s) ∧ Text.lines reply = s.gateways.entries.map line := by
  refine ⟨Text.joinLines (s.gateways.entries.map line), ?_, ?_⟩
  · simp [list, hargs, Table.isEmpty, hstored]
  · refine Text.lines_joinLines (by simpa using hstored) fun l hl => ?_
    obtain ⟨route, -, rfl⟩ := List.mem_map.mp hl
    exact feed_not_mem_line route

end Routes

/-! ### Connections -/

namespace Streams

/-- A line names a connection by its number and its endpoint. -/
def Shows (line : String) (connection : UInt32 × Endpoint) : Prop :=
  ∃ number text, Text.words line = ["conn", number, text] ∧
    Numeral.readUInt32? number = some connection.1 ∧ Endpoint.parse? text = some connection.2

/-- The printed number of a connection is the number. -/
lemma readUInt32?_toString (number : UInt32) :
    Numeral.readUInt32? (toString number.toNat) = some number := by
  have hread : Numeral.read? UInt32.size (toString number.toNat) = some number.toNat :=
    Numeral.read?_toString number.toNat_lt
  rw [Numeral.readUInt32?, hread, Option.map_some, UInt32.ofNat_toNat]

/-- The line of a connection shows it. -/
lemma shows_line (connection : UInt32 × Endpoint) :
    Shows (connectionLine connection) connection := by
  have hconn : Text.Word "conn" := .of_all (by decide) (by decide)
  have hjoin : connectionLine connection = "conn" ++ (" "
      ++ (Text.padRight 3 (toString connection.1.toNat) ++ (" " ++ connection.2.print))) := by
    simp [connectionLine, ← String.append_assoc]
  refine ⟨toString connection.1.toNat, connection.2.print, ?_, readUInt32?_toString _,
    Endpoint.parse?_print _⟩
  rw [hjoin, Text.words_space hconn, Text.words_padRight (Numeral.isWord_toString _),
    (Endpoint.isWord_print _).words_eq]

/-- The line of a listening port is one line. -/
lemma feed_not_mem_listenerLine (port : Port) : '\n' ∉ (listenerLine port).toList := by
  intro hfeed
  simp only [listenerLine, printPort, String.toList_append, List.mem_append] at hfeed
  rcases hfeed with hfeed | hfeed | hfeed
  · exact absurd hfeed (by decide)
  · exact absurd hfeed (by decide)
  · exact (Numeral.isWord_toString _).feed_not_mem hfeed

/-- The line of a connection is one line. -/
lemma feed_not_mem_connectionLine (connection : UInt32 × Endpoint) :
    '\n' ∉ (connectionLine connection).toList := by
  intro hfeed
  simp only [connectionLine, String.toList_append, List.mem_append] at hfeed
  rcases hfeed with ((hfeed | hfeed) | hfeed) | hfeed
  · exact absurd hfeed (by decide)
  · exact (Numeral.isWord_toString _).feed_not_mem_padRight 3 hfeed
  · exact absurd hfeed (by decide)
  · exact (Endpoint.isWord_print _).feed_not_mem hfeed

variable {s next : Streams} {args reply : String}

/-- A listing that is not empty has one line for each listening port and, behind these, one for each
connection. -/
lemma exists_lines
    (hlines : s.listeners.keys.map listenerLine ++ s.connections.entries.map connectionLine ≠ [])
    (hargs : Text.words args = []) :
    ∃ reply, s.list args = (.ok reply, s) ∧
      Text.lines reply = s.listeners.keys.map listenerLine
        ++ s.connections.entries.map connectionLine := by
  refine ⟨_, ?_, Text.lines_joinLines hlines fun l hl => ?_⟩
  · rw [list, hargs]
    dsimp only
    split
    · next hnone => exact absurd hnone hlines
    · rfl
  · rcases List.mem_append.mp hl with hl | hl
    · obtain ⟨port, -, rfl⟩ := List.mem_map.mp hl
      exact feed_not_mem_listenerLine port
    · obtain ⟨connection, -, rfl⟩ := List.mem_map.mp hl
      exact feed_not_mem_connectionLine connection

/-- So it is as long as there are connections. -/
lemma exists_listing (hstored : s.connections.entries ≠ []) (hargs : Text.words args = []) :
    ∃ reply, s.list args = (.ok reply, s) ∧
      Text.lines reply = s.listeners.keys.map listenerLine
        ++ s.connections.entries.map connectionLine :=
  exists_lines (by simp [hstored]) hargs

/-- A connection is opened, under the next number, for one word that reads as an endpoint with a
port other than zero, as long as there is a number behind the next one. -/
lemma connect_eq_ok_iff : s.connect args = (.ok reply, next) ↔
    ∃ word endpoint, Text.words args = [word] ∧ Endpoint.parse? word = some endpoint ∧
      endpoint.port ≠ 0 ∧ s.nextNumber.toNat + 1 ≠ UInt32.size ∧
        reply = printConnection s.nextNumber endpoint ++ " established" ∧
          next = { s with
            connections := s.connections.insert s.nextNumber endpoint
            nextNumber := s.nextNumber + 1 } := by
  constructor
  · intro h
    rw [connect] at h
    split at h
    · next word hwords =>
        split at h
        · cases h
        · next endpoint hendpoint =>
            split at h
            · cases h
            · next hport =>
                split at h
                · cases h
                · next hnumber =>
                    cases h
                    exact ⟨word, endpoint, hwords, hendpoint, hport, hnumber, rfl, rfl⟩
    · cases h
  · rintro ⟨word, endpoint, hwords, hendpoint, hport, hnumber, rfl, rfl⟩
    simp [connect, hwords, hendpoint, hport, hnumber]

/-- The words of a reply that names a connection. -/
lemma words_printConnection (number : UInt32) (endpoint : Endpoint) {state : String}
    (hstate : Text.Word state) :
    Text.words (printConnection number endpoint ++ (" " ++ state))
      = ["connection", toString number.toNat, "to", endpoint.print, state] := by
  have hconnection : Text.Word "connection" := .of_all (by decide) (by decide)
  have hto : Text.Word "to" := .of_all (by decide) (by decide)
  have hjoin : printConnection number endpoint ++ (" " ++ state)
      = "connection" ++ (" " ++ (toString number.toNat ++ (" " ++ ("to" ++ (" "
        ++ (endpoint.print ++ (" " ++ state))))))) := by
    simp [printConnection, ← String.append_assoc]
  rw [hjoin, Text.words_space hconnection, Text.words_space (Numeral.isWord_toString _),
    Text.words_space hto, Text.words_space (Endpoint.isWord_print _), hstate.words_eq]

/-- The reply to a successful connect names the connection that is stored by it. -/
lemma connect_reply (h : s.connect args = (.ok reply, next)) :
    ∃ number text endpoint, Text.words reply = ["connection", number, "to", text, "established"] ∧
      Numeral.readUInt32? number = some s.nextNumber ∧ Endpoint.parse? text = some endpoint ∧
        next.connections.get? s.nextNumber = some endpoint := by
  obtain ⟨_, endpoint, -, -, -, -, rfl, rfl⟩ := connect_eq_ok_iff.mp h
  have hstate : Text.Word "established" := .of_all (by decide) (by decide)
  have hspace : " established" = " " ++ "established" := by decide
  have hwords := words_printConnection s.nextNumber endpoint hstate
  rw [← hspace] at hwords
  exact ⟨_, _, endpoint, hwords, readUInt32?_toString _, Endpoint.parse?_print endpoint,
    Table.get?_insert_self _ _ _⟩

end Streams

/-- **What is printed reads back**:

* the printed text of every subnet is the subnet;
* in every state of the routes, every line of their listing deletes its route by its first word, and
  no other route;
* in every state of the connections, every line of their listing shows its connection, and the reply
  to a successful connect names the connection that it stores; the texts of numbers and endpoints
  read as what is stored, the scopes of 128-bit addresses included. -/
theorem printed_reads_back :
    (∀ p : Subnet, Subnet.parse? p.print = some p) ∧
    (∀ s : Routes, s.gateways.entries ≠ [] → ∀ args, Text.words args = [] →
      ∃ reply, s.list args = (.ok reply, s) ∧
        List.Forall₂ s.Deletes (Text.lines reply) s.gateways.entries) ∧
    (∀ s : Streams, s.connections.entries ≠ [] → ∀ args, Text.words args = [] →
      ∃ reply, s.list args = (.ok reply, s) ∧
        List.Forall₂ Streams.Shows ((Text.lines reply).drop s.listeners.size)
          s.connections.entries) ∧
    (∀ (s next : Streams) args reply, s.connect args = (.ok reply, next) →
      ∃ number text endpoint,
        Text.words reply = ["connection", number, "to", text, "established"] ∧
          Numeral.readUInt32? number = some s.nextNumber ∧ Endpoint.parse? text = some endpoint ∧
            next.connections.get? s.nextNumber = some endpoint) := by
  refine ⟨Subnet.parse?_print, fun s hstored args hargs => ?_, fun s hstored args hargs => ?_,
    fun s next args reply h => Streams.connect_reply h⟩
  · obtain ⟨reply, hreply, hlines⟩ := Routes.exists_listing hstored hargs
    refine ⟨reply, hreply, ?_⟩
    rw [hlines, List.forall₂_map_left_iff, List.forall₂_same]
    exact fun route hroute => Routes.deletes_line hroute
  · obtain ⟨reply, hreply, hlines⟩ := Streams.exists_listing hstored hargs
    refine ⟨reply, hreply, ?_⟩
    have hdrop : (Text.lines reply).drop s.listeners.size
        = s.connections.entries.map Streams.connectionLine := by
      rw [hlines]
      exact List.drop_left' (by simp [Table.keys, Table.size])
    rw [hdrop, List.forall₂_map_left_iff, List.forall₂_same]
    exact fun connection _ => Streams.shows_line connection

end DaemonConsole
