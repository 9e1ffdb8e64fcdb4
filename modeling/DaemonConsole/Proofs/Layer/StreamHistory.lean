/-
The connections of a run, told by its commands.

Connections are numbered in the order in which they are opened, and closing one does not free its
number. So the number of a connection is told by the commands that opened one before it, and whether
it is open by the commands behind it that closed it.

* `Streams.Listens`, `Streams.Connects`, `Streams.Closes`: the commands about ports, endpoints and
  numbers;
* `Streams.opened`: the commands of a list that opened a connection;
* `Streams.Open`: the connections that are open behind a list of successful commands;
* `Streams.Keeps.execute`: a successful command keeps the state to what the commands tell;
* `Streams.Follows`: all that the successful commands tell of the state;
* `Streams.numbered_after`: they do so after every run;
* `Streams.lastNumber_withheld`: the last of all numbers is never given.
-/
import DaemonConsole.Proofs.Layer.Listings
import DaemonConsole.Proofs.Layer.Ports

namespace DaemonConsole

/-- A word reads as an endpoint to connect to if its port is not zero. -/
def Endpoint.Reads (word : String) (endpoint : Endpoint) : Prop :=
  parse? word = some endpoint ∧ endpoint.port ≠ 0

namespace Streams

/-- A command, as the step of a machine. -/
def command (s : Streams) (i : Invocation) : Except LayerError String × Streams :=
  s.execute i.command i.args

variable {s next : Streams} {i : Invocation} {reply : String} {port port' : Port}
  {number number' : UInt32} {endpoint endpoint' : Endpoint}

/-! ### Commands about ports, endpoints and numbers -/

/-- A command to listen on a port. -/
def Listens (i : Invocation) (port : Port) : Prop :=
  i.Gives menu "listen" Port.Reads port

/-- A command to connect to an endpoint. -/
def Connects (i : Invocation) (endpoint : Endpoint) : Prop :=
  i.Gives menu "connect" Endpoint.Reads endpoint

/-- A command to close the connection of a number. -/
def Closes (i : Invocation) (number : UInt32) : Prop :=
  i.Gives menu "close" (fun word number => Numeral.readUInt32? word = some number) number

lemma calls_listen : i.Calls menu "listen" ↔ i.command = 0 :=
  Invocation.calls_iff rfl

lemma calls_connect : i.Calls menu "connect" ↔ i.command = 1 :=
  Invocation.calls_iff rfl

lemma calls_close : i.Calls menu "close" ↔ i.command = 2 :=
  Invocation.calls_iff rfl

lemma calls_list : i.Calls menu "conns" ↔ i.command = 3 :=
  Invocation.calls_iff rfl

lemma execute_listen (hcalls : i.Calls menu "listen") :
    s.execute i.command i.args = s.listen i.args := by
  rw [calls_listen.mp hcalls]
  rfl

lemma execute_connect (hcalls : i.Calls menu "connect") :
    s.execute i.command i.args = s.connect i.args := by
  rw [calls_connect.mp hcalls]
  rfl

lemma execute_close (hcalls : i.Calls menu "close") :
    s.execute i.command i.args = s.close i.args := by
  rw [calls_close.mp hcalls]
  rfl

lemma execute_list (hcalls : i.Calls menu "conns") :
    s.execute i.command i.args = s.list i.args := by
  rw [calls_list.mp hcalls]
  rfl

lemma Listens.iff_eq (h : Listens i port') : Listens i port ↔ port' = port :=
  Invocation.Gives.iff_eq h fun _ _ _ hread hread' => Option.some.inj (hread.1.symm.trans hread'.1)

lemma Connects.iff_eq (h : Connects i endpoint') : Connects i endpoint ↔ endpoint' = endpoint :=
  Invocation.Gives.iff_eq h fun _ _ _ hread hread' => Option.some.inj (hread.1.symm.trans hread'.1)

lemma Closes.iff_eq (h : Closes i number') : Closes i number ↔ number' = number :=
  Invocation.Gives.iff_eq h fun _ _ _ hread hread' => Option.some.inj (hread.symm.trans hread')

/-! ### Successful commands -/

/-- A port is listened on unless it already is. -/
lemma execute_listen_iff (hcalls : i.Calls menu "listen") :
    s.execute i.command i.args = (.ok reply, next) ↔
      ∃ port, Listens i port ∧ s.listeners.get? port = none ∧
        reply = "listening on " ++ printPort port ∧
          next = { s with listeners := s.listeners.insert port () } := by
  rw [execute_listen hcalls]
  constructor
  · intro h
    rw [listen] at h
    split at h
    · cases h
    · next port hport =>
        split at h
        · cases h
        · next hfree =>
            cases h
            exact ⟨port, ⟨hcalls, Port.ofArguments_eq_ok_iff.mp hport⟩,
              Table.contains_eq_false_iff.mp (Bool.eq_false_iff.mpr hfree), rfl, rfl⟩
  · rintro ⟨port, ⟨-, hport⟩, hfree, rfl, rfl⟩
    have hstored : s.listeners.contains port = false := Table.contains_eq_false_iff.mpr hfree
    simp [listen, Port.ofArguments_eq_ok_iff.mpr hport, hstored]

/-- A connection is opened under the next number, as long as there is a number behind it. -/
lemma execute_connect_iff (hcalls : i.Calls menu "connect") :
    s.execute i.command i.args = (.ok reply, next) ↔
      ∃ endpoint, Connects i endpoint ∧ s.nextNumber.toNat + 1 ≠ UInt32.size ∧
        reply = printConnection s.nextNumber endpoint ++ " established" ∧
          next = { s with
            connections := s.connections.insert s.nextNumber endpoint
            nextNumber := s.nextNumber + 1 } := by
  rw [execute_connect hcalls, connect_eq_ok_iff]
  constructor
  · rintro ⟨word, endpoint, hwords, hendpoint, hport, hrest⟩
    exact ⟨endpoint, ⟨hcalls, word, hwords, hendpoint, hport⟩, hrest⟩
  · rintro ⟨endpoint, ⟨-, word, hwords, hendpoint, hport⟩, hrest⟩
    exact ⟨word, endpoint, hwords, hendpoint, hport, hrest⟩

/-- A connection is closed if there is one of the number. -/
lemma execute_close_iff (hcalls : i.Calls menu "close") :
    s.execute i.command i.args = (.ok reply, next) ↔
      ∃ number endpoint, Closes i number ∧ s.connections.get? number = some endpoint ∧
        reply = printConnection number endpoint ++ " closed" ∧
          next = { s with connections := s.connections.erase number } := by
  rw [execute_close hcalls]
  constructor
  · intro h
    rw [close] at h
    split at h
    · next word hwords =>
        split at h
        · cases h
        · next number hnumber =>
            split at h
            · next endpoint hstored =>
                cases h
                exact ⟨number, endpoint, ⟨hcalls, word, hwords, hnumber⟩, hstored, rfl, rfl⟩
            · cases h
    · cases h
  · rintro ⟨number, endpoint, ⟨-, word, hwords, hnumber⟩, hstored, rfl, rfl⟩
    simp [close, hwords, hnumber, hstored]

/-- The other commands keep the state. -/
lemma execute_other (hlisten : ¬ i.Calls menu "listen") (hconnect : ¬ i.Calls menu "connect")
    (hclose : ¬ i.Calls menu "close") (h : s.execute i.command i.args = (.ok reply, next)) :
    next = s := by
  rw [calls_listen] at hlisten
  rw [calls_connect] at hconnect
  rw [calls_close] at hclose
  rw [execute] at h
  split at h
  · next hid => exact absurd (UInt32.toNat_inj.mp hid) hlisten
  · next hid => exact absurd (UInt32.toNat_inj.mp hid) hconnect
  · next hid => exact absurd (UInt32.toNat_inj.mp hid) hclose
  · exact (congrArg Prod.snd h).symm.trans (s.snd_list i.args)
  · cases h

/-! ### What is open -/

/-- The commands that opened a connection, in order. -/
def opened (past : List (Invocation × String)) : List (Invocation × String) :=
  past.filter fun e => e.1.Calls menu "connect"

/-- A connection is open if it was opened, under the number that counts the connections opened until
then, and no command has closed this number since. -/
def Open (past : List (Invocation × String)) (number : UInt32) (endpoint : Endpoint) : Prop :=
  Since (fun earlier e => Connects e.1 endpoint ∧ number.toNat = (opened earlier).length + 1)
    (fun e => Closes e.1 number) past

/-- A port is listened on if there was a command to. -/
def Listening (past : List (Invocation × String)) (port : Port) : Prop :=
  ∃ e ∈ past, Listens e.1 port

variable {past : List (Invocation × String)} {e : Invocation × String}

lemma opened_concat_of_connects (h : e.1.Calls menu "connect") :
    opened (past ++ [e]) = opened past ++ [e] := by
  simp [opened, h]

lemma opened_concat_of_not (h : ¬ e.1.Calls menu "connect") : opened (past ++ [e]) = opened past := by
  simp [opened, h]

/-- No open connection has a number that is still to be given. -/
lemma Open.number_le (h : Open past number endpoint) : number.toNat ≤ (opened past).length := by
  obtain ⟨earlier, e, later, rfl, ⟨hconnects, hnumber⟩, -⟩ := h
  have hcalls : e.1.Calls menu "connect" := hconnects.1
  simp [opened, hcalls] at hnumber ⊢
  omega

/-- What is stored is what is open and listened on, and the replies to the commands that opened
connections count these. -/
structure Keeps (past : List (Invocation × String)) (s : Streams) : Prop where
  nextNumber_eq : s.nextNumber.toNat = (opened past).length + 1
  connections_iff : ∀ number endpoint,
    s.connections.get? number = some endpoint ↔ Open past number endpoint
  listeners_iff : ∀ port, s.listeners.get? port = some () ↔ Listening past port
  replies : ∀ k e, (opened past)[k]? = some e → ∃ endpoint, Connects e.1 endpoint ∧
    e.2 = "connection " ++ toString (k + 1) ++ " to " ++ endpoint.print ++ " established"

lemma keeps_initial : Keeps [] initial where
  nextNumber_eq := rfl
  connections_iff _ _ := iff_of_false (fun h => by cases h) not_since_nil
  listeners_iff _ := iff_of_false (fun h => by cases h) (by simp [Listening])
  replies k e h := by cases h

lemma open_concat : Open (past ++ [e]) number endpoint ↔
    Connects e.1 endpoint ∧ number.toNat = (opened past).length + 1 ∨
      Open past number endpoint ∧ ¬ Closes e.1 number :=
  since_concat

lemma listening_concat : Listening (past ++ [e]) port ↔ Listening past port ∨ Listens e.1 port := by
  simp [Listening, or_and_right, exists_or]

/-- A command that opens no connection closes at most one and listens on at most one port. -/
lemma Keeps.concat_of_not (hs : Keeps past s) (hconnect : ¬ e.1.Calls menu "connect")
    (hnumber : next.nextNumber = s.nextNumber)
    (hconnections : ∀ number endpoint, next.connections.get? number = some endpoint ↔
      s.connections.get? number = some endpoint ∧ ¬ Closes e.1 number)
    (hlisteners : ∀ port, next.listeners.get? port = some () ↔
      s.listeners.get? port = some () ∨ Listens e.1 port) : Keeps (past ++ [e]) next where
  nextNumber_eq := by rw [hnumber, hs.nextNumber_eq, opened_concat_of_not hconnect]
  connections_iff number endpoint := by
    have hnone : ¬ Connects e.1 endpoint := fun hconnects => hconnect hconnects.1
    rw [hconnections, hs.connections_iff, open_concat]
    simp [hnone]
  listeners_iff port := by rw [hlisteners, hs.listeners_iff, listening_concat]
  replies := by
    rw [opened_concat_of_not hconnect]
    exact hs.replies

/-- A command that opens a connection gives it the next number. -/
lemma Keeps.connect (hs : Keeps past s) (hconnects : Connects i endpoint)
    (hroom : s.nextNumber.toNat + 1 ≠ UInt32.size) :
    Keeps (past ++ [(i, printConnection s.nextNumber endpoint ++ " established")])
      { s with
        connections := s.connections.insert s.nextNumber endpoint
        nextNumber := s.nextNumber + 1 } where
  nextNumber_eq := by
    have hbound := s.nextNumber.toNat_lt
    have hnext : (s.nextNumber + 1).toNat = s.nextNumber.toNat + 1 := by
      rw [UInt32.toNat_add]
      exact Nat.mod_eq_of_lt (Nat.lt_of_le_of_ne hbound hroom)
    rw [opened_concat_of_connects hconnects.1, List.length_append, hnext, hs.nextNumber_eq]
    rfl
  connections_iff number endpoint' := by
    have hclose : ¬ Closes i number := fun hcloses =>
      hconnects.1.not_calls (by decide) hcloses.1
    rw [open_concat, ← hs.nextNumber_eq, UInt32.toNat_inj, ← hs.connections_iff]
    by_cases hnumber : s.nextNumber = number
    · subst hnumber
      -- the numbers of open connections were given before, so none of them is the next one
      have hfree : s.connections.get? s.nextNumber ≠ some endpoint' := fun hstored => by
        have hle := ((hs.connections_iff _ _).mp hstored).number_le
        have hnext := hs.nextNumber_eq
        omega
      rw [Table.get?_insert_self]
      simp [hconnects.iff_eq, hfree]
    · rw [Table.get?_insert_of_ne _ _ hnumber]
      simp [Ne.symm hnumber, hclose]
  listeners_iff port := by
    have hlisten : ¬ Listens i port := fun hlistens =>
      hconnects.1.not_calls (by decide) hlistens.1
    rw [listening_concat, hs.listeners_iff]
    simp [hlisten]
  replies k e hk := by
    rw [opened_concat_of_connects hconnects.1] at hk
    -- the last reply is the new one, and its number is the count of those before it and itself
    rcases Nat.lt_or_ge k (opened past).length with hlt | hge
    · rw [List.getElem?_append_left hlt] at hk
      exact hs.replies k e hk
    · rw [List.getElem?_append_right hge] at hk
      obtain ⟨hlast, rfl⟩ := List.getElem?_eq_some_iff.mp hk
      have hcount : s.nextNumber.toNat = k + 1 := by
        rw [List.length_singleton] at hlast
        rw [hs.nextNumber_eq]
        omega
      refine ⟨endpoint, by simpa using hconnects, ?_⟩
      simp [printConnection, hcount]

/-- A successful command keeps the state to what the commands tell. -/
lemma Keeps.execute (hs : Keeps past s) (h : s.execute i.command i.args = (.ok reply, next)) :
    Keeps (past ++ [(i, reply)]) next := by
  by_cases hconnect : i.Calls menu "connect"
  · obtain ⟨endpoint, hconnects, hroom, rfl, rfl⟩ := (execute_connect_iff hconnect).mp h
    exact hs.connect hconnects hroom
  · by_cases hlisten : i.Calls menu "listen"
    · obtain ⟨port, hlistens, -, -, rfl⟩ := (execute_listen_iff hlisten).mp h
      refine hs.concat_of_not hconnect rfl (fun number endpoint => ?_) fun port' => ?_
      · have hclose : ¬ Closes i number := fun hcloses =>
          hlisten.not_calls (by decide) hcloses.1
        simp [hclose]
      · by_cases hport : port = port'
        · subst hport
          rw [Table.get?_insert_self]
          simp [hlistens]
        · rw [Table.get?_insert_of_ne _ _ hport]
          simp [hlistens.iff_eq, hport]
    · have hlistens : ∀ port, ¬ Listens i port := fun port hlistens => hlisten hlistens.1
      by_cases hclose : i.Calls menu "close"
      · obtain ⟨number, endpoint, hcloses, -, -, rfl⟩ := (execute_close_iff hclose).mp h
        refine hs.concat_of_not hconnect rfl (fun number' endpoint' => ?_) fun port => ?_
        · by_cases hnumber : number = number'
          · subst hnumber
            rw [Table.get?_erase_self]
            simp [hcloses]
          · rw [Table.get?_erase_of_ne _ hnumber]
            simp [hcloses.iff_eq, hnumber]
        · simp [hlistens]
      · obtain rfl := execute_other hlisten hconnect hclose h
        have hcloses : ∀ number, ¬ Closes i number := fun number hcloses => hclose hcloses.1
        exact hs.concat_of_not hconnect rfl (by simp [hcloses]) (by simp [hlistens])

/-- So it is after every run. -/
lemma keeps_after (calls : List Invocation) :
    Keeps (Machine.successes command initial calls)
      (Machine.after command initial calls) :=
  Machine.successes_induction (fun s i => s.atomic_execute i.args i.command)
    (fun _ _ _ _ _ h hs => hs.execute h) keeps_initial calls

/-! ### All that the commands tell -/

/-- The numbers of what is stored are below the next one. -/
lemma Keeps.lt_nextNumber (hs : Keeps past s) (h : s.connections.get? number = some endpoint) :
    number < s.nextNumber := by
  have hle := ((hs.connections_iff _ _).mp h).number_le
  have hnext := hs.nextNumber_eq
  rw [UInt32.lt_iff_toNat_lt]
  omega

/-- A connection is opened as long as its number is not the last one. -/
lemma Keeps.connect_iff (hs : Keeps past s) (hcalls : i.Calls menu "connect") :
    (∃ reply next, s.execute i.command i.args = (.ok reply, next)) ↔
      (∃ endpoint, Connects i endpoint) ∧ (opened past).length < 2 ^ 32 - 2 := by
  have hroom : s.nextNumber.toNat + 1 ≠ UInt32.size ↔ (opened past).length < 2 ^ 32 - 2 := by
    have hnext := hs.nextNumber_eq
    have hbound := s.nextNumber.toNat_lt
    have hsize : UInt32.size = 2 ^ 32 := rfl
    omega
  simp only [execute_connect_iff hcalls, hroom]
  constructor
  · rintro ⟨_, _, endpoint, hconnects, hlt, -, -⟩
    exact ⟨⟨endpoint, hconnects⟩, hlt⟩
  · rintro ⟨⟨endpoint, hconnects⟩, hlt⟩
    exact ⟨_, _, endpoint, hconnects, hlt, rfl, rfl⟩

/-- As many connections to one endpoint are opened as there are numbers to give. -/
lemma length_opened_replicate (hconnects : Connects i endpoint) {n : Nat} (hn : n ≤ 2 ^ 32 - 2) :
    (opened (Machine.successes command initial (List.replicate n i))).length = n := by
  induction n with
  | zero => rfl
  | succ n ih =>
      have hlength := ih (Nat.le_of_succ_le hn)
      obtain ⟨reply, next, hstep⟩ :=
        ((keeps_after (List.replicate n i)).connect_iff hconnects.1).mpr
          ⟨⟨endpoint, hconnects⟩, hlength.symm ▸ hn⟩
      have hanswer : (command (Machine.after command initial (List.replicate n i)) i).1
          = .ok reply := congrArg Prod.fst hstep
      have hopened : opened (Machine.successes command initial (List.replicate (n + 1) i))
          = opened (Machine.successes command initial (List.replicate n i)) ++ [(i, reply)] := by
        rw [List.replicate_succ', Machine.successes_concat, hanswer]
        exact opened_concat_of_connects hconnects.1
      rw [hopened, List.length_append, hlength, List.length_singleton]

/-- A connection is refused when the last number is the next one. -/
lemma execute_connect_of_exhausted (hconnects : Connects i endpoint)
    (hnumber : s.nextNumber.toNat + 1 = UInt32.size) :
    s.execute i.command i.args = (.error (.rejected .numbersExhausted), s) := by
  obtain ⟨hcalls, word, hwords, hendpoint, hport⟩ := hconnects
  rw [execute_connect hcalls, connect, hwords]
  simp [hendpoint, hport, hnumber]

/-- So it is once all other numbers are given. -/
lemma Keeps.connect_refused (hs : Keeps past s) (hconnects : Connects i endpoint)
    (hlength : (opened past).length = 2 ^ 32 - 2) :
    s.execute i.command i.args = (.error (.rejected .numbersExhausted), s) := by
  refine execute_connect_of_exhausted hconnects ?_
  rw [hs.nextNumber_eq, hlength]
  rfl

/-- An open connection is closed. -/
lemma Keeps.close_iff (hs : Keeps past s) (hcalls : i.Calls menu "close") :
    (∃ next, s.execute i.command i.args = (.ok reply, next)) ↔
      ∃ number endpoint, Closes i number ∧ Open past number endpoint ∧
        reply = "connection " ++ toString number.toNat ++ " to " ++ endpoint.print ++ " closed" := by
  simp only [execute_close_iff hcalls, hs.connections_iff]
  constructor
  · rintro ⟨_, number, endpoint, hcloses, hopen, hreply, -⟩
    exact ⟨number, endpoint, hcloses, hopen, hreply⟩
  · rintro ⟨number, endpoint, hcloses, hopen, hreply⟩
    exact ⟨_, number, endpoint, hcloses, hopen, hreply, rfl⟩

/-- A port is listened on if it is not yet. -/
lemma Keeps.listen_iff (hs : Keeps past s) (hcalls : i.Calls menu "listen") :
    (∃ reply next, s.execute i.command i.args = (.ok reply, next)) ↔
      ∃ port, Listens i port ∧ ¬ Listening past port := by
  have hfree : ∀ port, s.listeners.get? port = none ↔ ¬ Listening past port := by
    intro port
    rw [← hs.listeners_iff]
    cases s.listeners.get? port with
    | none => simp
    | some u => simp
  simp only [execute_listen_iff hcalls, hfree]
  constructor
  · rintro ⟨_, _, port, hlistens, hnone, -, -⟩
    exact ⟨port, hlistens, hnone⟩
  · rintro ⟨port, hlistens, hnone⟩
    exact ⟨_, _, port, hlistens, hnone, rfl, rfl⟩

/-- No line of a listing says that there is nothing. -/
lemma nothing_not_mem_lines {ports : List Port} {connections : List (UInt32 × Endpoint)} :
    "no connections" ∉ ports.map listenerLine ++ connections.map connectionLine := by
  intro hmem
  rcases List.mem_append.mp hmem with hmem | hmem
  · obtain ⟨port, -, hline⟩ := List.mem_map.mp hmem
    have hhead := congrArg (fun line => line.toList.head?) hline
    simp [listenerLine] at hhead
  · obtain ⟨connection, -, hline⟩ := List.mem_map.mp hmem
    have hhead := congrArg (fun line => line.toList.head?) hline
    simp [connectionLine] at hhead

/-- A reply lists ports and connections, which are those that are listened on and those that are open,
first the ports and then the connections, in ascending order and each on a line of its own. -/
structure Lists (past : List (Invocation × String)) (ports : List Port)
    (connections : List (UInt32 × Endpoint)) (reply : String) : Prop where
  mem_ports_iff : ∀ port, port ∈ ports ↔ Listening past port
  ports_ascending : ports.Pairwise (· < ·)
  mem_connections_iff : ∀ number endpoint,
    (number, endpoint) ∈ connections ↔ Open past number endpoint
  connections_ascending : connections.Pairwise fun a b => a.1 < b.1
  none_iff : reply = "no connections" ↔ ports = [] ∧ connections = []
  lines : reply ≠ "no connections" →
    Text.lines reply = ports.map listenerLine ++ connections.map connectionLine

/-- What is listened on and what is open is listed. -/
lemma Keeps.exists_lists (hs : Keeps past s) (hcalls : i.Calls menu "conns")
    (hargs : Text.words i.args = []) :
    ∃ ports connections reply, s.execute i.command i.args = (.ok reply, s) ∧
      Lists past ports connections reply := by
  have hports : ∀ port, port ∈ s.listeners.keys ↔ Listening past port := by
    intro port
    rw [Table.mem_keys_iff, ← hs.listeners_iff]
    exact ⟨fun ⟨_, hget⟩ => hget, fun hget => ⟨(), hget⟩⟩
  have hconnections : ∀ number endpoint,
      (number, endpoint) ∈ s.connections.entries ↔ Open past number endpoint :=
    fun number endpoint => Table.mem_entries_iff.trans (hs.connections_iff number endpoint)
  have hportsAscend : s.listeners.keys.Pairwise (· < ·) :=
    s.listeners.ascending_keys.imp UInt16.lt_iff_toNat_lt.mpr
  have hconnectionsAscend : s.connections.entries.Pairwise fun a b => a.1 < b.1 :=
    s.connections.ascending.imp UInt32.lt_iff_toNat_lt.mpr
  rw [execute_list hcalls]
  by_cases hnone : s.listeners.keys = [] ∧ s.connections.entries = []
  · refine ⟨_, _, "no connections", ?_, hports, hportsAscend, hconnections, hconnectionsAscend,
      iff_of_true rfl hnone, fun hne => absurd rfl hne⟩
    simp [list, hargs, hnone]
  · have hlines : s.listeners.keys.map listenerLine
        ++ s.connections.entries.map connectionLine ≠ [] := by
      simpa [-not_and] using hnone
    obtain ⟨reply, hreply, heq⟩ := exists_lines hlines hargs
    have hne : reply ≠ "no connections" := by
      rintro rfl
      have hone : Text.lines "no connections" = ["no connections"] := by decide
      rw [hone] at heq
      exact nothing_not_mem_lines (heq ▸ List.mem_singleton_self "no connections")
    exact ⟨_, _, reply, hreply, hports, hportsAscend, hconnections, hconnectionsAscend,
      iff_of_false hne hnone, fun _ => heq⟩

/-- It is listed unless there are arguments. -/
lemma Keeps.list_iff (hs : Keeps past s) (hcalls : i.Calls menu "conns") :
    (∃ reply next, s.execute i.command i.args = (.ok reply, next)) ↔ Text.words i.args = [] := by
  constructor
  · rintro ⟨reply, next, h⟩
    rw [execute_list hcalls, list] at h
    split at h
    · next hargs => exact hargs
    · cases h
  · intro hargs
    obtain ⟨_, _, reply, hreply, -⟩ := hs.exists_lists hcalls hargs
    exact ⟨reply, s, hreply⟩

/-- What the successful commands of a run tell of the state that it leaves. -/
structure Follows (past : List (Invocation × String)) (s : Streams) : Prop where
  /-- The replies to the commands that opened connections count these, whatever was closed. -/
  numbered : ∀ k e, (opened past)[k]? = some e → ∃ endpoint, Connects e.1 endpoint ∧
    e.2 = "connection " ++ toString (k + 1) ++ " to " ++ endpoint.print ++ " established"
  /-- The open connections are stored, -/
  stored : ∀ number endpoint,
    s.connections.get? number = some endpoint ↔ Open past number endpoint
  /-- under numbers below the next one. -/
  below : ∀ number endpoint, s.connections.get? number = some endpoint → number < s.nextNumber
  /-- A connection is opened to every endpoint whose port is not zero, as long as fewer than
  `2 ^ 32 - 2` were opened before. -/
  connect_iff : ∀ i : Invocation, i.Calls menu "connect" →
    ((∃ reply next, s.execute i.command i.args = (.ok reply, next)) ↔
      (∃ endpoint, Connects i endpoint) ∧ (opened past).length < 2 ^ 32 - 2)
  /-- An open connection is closed by its number, and the reply names the endpoint that it was opened
  to. -/
  close_iff : ∀ i : Invocation, i.Calls menu "close" → ∀ reply,
    ((∃ next, s.execute i.command i.args = (.ok reply, next)) ↔
      ∃ number endpoint, Closes i number ∧ Open past number endpoint ∧
        reply = "connection " ++ toString number.toNat ++ " to " ++ endpoint.print ++ " closed")
  /-- A port is listened on once. -/
  listen_iff : ∀ i : Invocation, i.Calls menu "listen" →
    ((∃ reply next, s.execute i.command i.args = (.ok reply, next)) ↔
      ∃ port, Listens i port ∧ ¬ Listening past port)
  /-- What is listened on and what is open is listed, as long as there are no arguments. -/
  list_iff : ∀ i : Invocation, i.Calls menu "conns" →
    ((∃ reply next, s.execute i.command i.args = (.ok reply, next)) ↔ Text.words i.args = [])
  listed : ∀ i : Invocation, i.Calls menu "conns" → Text.words i.args = [] →
    ∃ ports connections reply, s.execute i.command i.args = (.ok reply, s) ∧
      Lists past ports connections reply

/-- **Numbers are never reused**: after every run of commands on a layer where nothing is connected,
the commands that succeeded tell the number of each connection and whether it is open, which further
commands succeed, and what is listed. -/
theorem numbered_after (calls : List Invocation) :
    Follows (Machine.successes command initial calls)
      (Machine.after command initial calls) where
  numbered := (keeps_after calls).replies
  stored := (keeps_after calls).connections_iff
  below _ _ hget := (keeps_after calls).lt_nextNumber hget
  connect_iff _ hcalls := (keeps_after calls).connect_iff hcalls
  close_iff _ hcalls _ := (keeps_after calls).close_iff hcalls
  listen_iff _ hcalls := (keeps_after calls).listen_iff hcalls
  list_iff _ hcalls := (keeps_after calls).list_iff hcalls
  listed _ hcalls hargs := (keeps_after calls).exists_lists hcalls hargs

/-- A command to connect to a port of the machine itself. -/
def connectHome : Invocation :=
  ⟨1, "127.0.0.1:80"⟩

/-- The last number is never given: behind `2 ^ 32 - 2` connections, one fewer than there are numbers,
the next one is refused, although its endpoint has a port other than zero. And where nothing is open,
a listing with arguments does not say so. -/
theorem lastNumber_withheld :
    let calls := List.replicate (2 ^ 32 - 2) connectHome
    let s := Machine.after command initial calls
    (opened (Machine.successes command initial calls)).length < 2 ^ 32 - 1 ∧
      (∃ endpoint, Connects connectHome endpoint) ∧
        s.execute connectHome.command connectHome.args
            = (.error (.rejected .numbersExhausted), s) ∧
          initial.execute 3 "all" = (.error (.usage (.argumentsAfter "conns")), initial) := by
  have hconnects : Connects connectHome (.v4 0x7F000001 80) :=
    ⟨rfl, "127.0.0.1:80", by decide, by decide, by decide⟩
  have hlength := length_opened_replicate hconnects (le_refl (2 ^ 32 - 2))
  have hkeeps := keeps_after (List.replicate (2 ^ 32 - 2) connectHome)
  exact ⟨hlength.trans_lt (by decide), ⟨_, hconnects⟩, hkeeps.connect_refused hconnects hlength,
    rfl⟩

end Streams

end DaemonConsole
