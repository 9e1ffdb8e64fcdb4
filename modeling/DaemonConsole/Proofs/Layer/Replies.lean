/-
What the commands of a layer answer.

A command that a layer knows is either refused for its arguments or the state, or it replies with a
text that shows something. The replies that list a state are the ones to look at: three kinds have
words of their own for an empty state, and the interfaces of a host are never none.

* `Handles`: such an answer, with what holds of the state after it;
* `Service.Populated`: a state whose listing shows something, which every command keeps;
* `Service.handles_execute`: every command of the menu of a kind is handled;
* `Service.execute_unknown_iff`: a command is unknown to a layer exactly when its menu has no
  command of that identifier.
-/
import DaemonConsole.Layer.Basic
import Mathlib.Tactic.Lemma

namespace DaemonConsole

/-- An operation handles its arguments: it replies with a text that is not empty and leaves a state as
wanted, or it refuses them for another reason than not knowing the command. -/
def Handles {σ : Type} (P : σ → Prop) : Except LayerError String × σ → Prop
  | (.ok reply, next) => reply ≠ "" ∧ P next
  | (.error fault, _) => ∀ id, fault ≠ .unknownCommand id

section Handles

variable {σ τ : Type} {P : σ → Prop} {s : σ}

/-- Arguments of a wrong form are handled. -/
lemma handles_usage (cause : Usage) : Handles P (.error (.usage cause), s) := by
  intro id
  simp

/-- Arguments that the state stands against are handled. -/
lemma handles_rejected (cause : Rejection) : Handles P (.error (.rejected cause), s) := by
  intro id
  simp

/-- A reply may be carried over to another type of states. -/
lemma Handles.map {Q : τ → Prop} {f : σ → τ} {result : Except LayerError String × σ}
    (h : Handles P result) (hf : ∀ s, P s → Q (f s)) : Handles Q (result.map id f) := by
  rcases result with ⟨fault | reply, next⟩
  · exact h
  · exact ⟨h.1, hf next h.2⟩

/-- What is handled is known. -/
lemma Handles.known {result : Except LayerError String × σ} (h : Handles P result) (id : CommandId) :
    result.1 ≠ .error (.unknownCommand id) := by
  rcases result with ⟨fault | reply, next⟩
  · rintro heq
    exact h id (Except.error.inj heq)
  · rintro ⟨⟩

/-- A listing of at least one line is not empty if no line is. -/
lemma joinLines_ne_empty {lines : List String} (hlines : lines ≠ [])
    (hline : ∀ line ∈ lines, line ≠ "") : Text.joinLines lines ≠ "" := by
  cases lines with
  | nil => exact absurd rfl hlines
  | cons line rest =>
      have hfirst : line ≠ "" := hline line List.mem_cons_self
      by_cases hrest : rest = []
      · subst hrest
        rw [Text.joinLines, String.intercalate_singleton]
        exact hfirst
      · rw [Text.joinLines, String.intercalate_cons_of_ne_nil hrest]
        intro hempty
        simp [String.append_eq_empty_iff] at hempty

/-- A listing by a function that shows every entry. -/
lemma joinLines_map_ne_empty {entries : List τ} {print : τ → String} (hentries : entries ≠ [])
    (hprint : ∀ e, print e ≠ "") : Text.joinLines (entries.map print) ≠ "" := by
  refine joinLines_ne_empty (by simpa using hentries) fun line hline => ?_
  obtain ⟨e, -, rfl⟩ := List.mem_map.mp hline
  exact hprint e

end Handles

/-- An identifier is the numeral of its number. -/
lemma CommandId.of_toNat {id : CommandId} {n : Nat} (h : id.toNat = n) : UInt32.ofNat n = id := by
  rw [← h, UInt32.ofNat_toNat]

/-! ### Interfaces -/

namespace Interfaces

/-- A host with at least one interface. -/
def Populated (s : Interfaces) : Prop :=
  s.entries ≠ []

/-- A host starts with two interfaces. -/
lemma populated_initial : initial.Populated := by
  simp [Populated, initial]

/-- Changing an interface takes none away. -/
lemma Populated.modify {s : Interfaces} (h : s.Populated) (name : String)
    (f : Interface → Interface) : (s.modify name f).Populated := by
  simpa [Populated, Interfaces.modify] using h

/-- The line of an interface shows something, whatever its name. -/
lemma line_ne_empty (name : String) (i : Interface) : line name i ≠ "" := by
  simp [line, String.append_eq_empty_iff]

variable {s : Interfaces}

lemma handles_change (h : s.Populated) (name : String) (f : Interface → Interface) {reply : String}
    (hreply : reply ≠ "") : Handles Populated (s.change name f reply) := by
  rw [change]
  cases s.get? name with
  | none => exact handles_rejected _
  | some i => exact ⟨hreply, h.modify name f⟩

lemma handles_list (h : s.Populated) (args : String) : Handles Populated (s.list args) := by
  rw [list]
  split
  · exact ⟨joinLines_map_ne_empty h fun e => line_ne_empty e.1 e.2, h⟩
  · exact handles_usage _

lemma handles_setState (h : s.Populated) (up : Bool) (args : String) :
    Handles Populated (s.setState up args) := by
  rw [setState]
  split
  · exact handles_change h _ _ (by simp [String.append_eq_empty_iff])
  · exact handles_usage _

lemma handles_setMtu (h : s.Populated) (args : String) : Handles Populated (s.setMtu args) := by
  rw [setMtu]
  split
  · split
    · exact handles_usage _
    · split
      · exact handles_change h _ _ (by simp [String.append_eq_empty_iff])
      · exact handles_usage _
  · exact handles_usage _

variable (s) (args : String)

/-- Every listed command is handled. -/
lemma handles_execute (h : s.Populated) {id : CommandId} (hid : ∃ c ∈ menu.commands, c.id = id) :
    Handles Populated (s.execute id args) := by
  obtain ⟨c, hc, rfl⟩ := hid
  simp only [menu, List.mem_cons, List.not_mem_nil, or_false] at hc
  rcases hc with rfl | rfl | rfl | rfl
  · exact handles_list h args
  · exact handles_setState h true args
  · exact handles_setState h false args
  · exact handles_setMtu h args

/-- A command that is not listed is unknown. -/
lemma execute_of_unlisted {id : CommandId} (hid : ∀ c ∈ menu.commands, c.id ≠ id) :
    s.execute id args = (.error (.unknownCommand id), s) := by
  simp only [menu, List.forall_mem_cons] at hid
  obtain ⟨h0, h1, h2, h3, -⟩ := hid
  rw [execute]
  split
  · next h => exact absurd (CommandId.of_toNat h) h0
  · next h => exact absurd (CommandId.of_toNat h) h1
  · next h => exact absurd (CommandId.of_toNat h) h2
  · next h => exact absurd (CommandId.of_toNat h) h3
  · rfl

end Interfaces

/-! ### Routes -/

namespace Routes

variable (s : Routes) (args : String)

lemma line_ne_empty (route : Subnet × IpAddr) : line route ≠ "" := by
  simp [line, String.append_eq_empty_iff]

lemma handles_ping : Handles (fun _ => True) (s.ping args) := by
  rw [ping]
  split
  · split
    · exact handles_usage _
    · split
      · exact ⟨by simp [String.append_eq_empty_iff], trivial⟩
      · split
        · exact ⟨by simp [String.append_eq_empty_iff], trivial⟩
        · exact handles_rejected _
  · exact handles_usage _

lemma handles_list : Handles (fun _ => True) (s.list args) := by
  rw [list]
  split
  · split
    · exact ⟨by decide, trivial⟩
    · next hempty =>
        have hentries : s.gateways.entries ≠ [] := by simpa [Table.isEmpty] using hempty
        exact ⟨joinLines_map_ne_empty hentries line_ne_empty, trivial⟩
  · exact handles_usage _

lemma handles_add : Handles (fun _ => True) (s.add args) := by
  rw [add]
  split
  · split
    · exact handles_usage _
    · exact handles_usage _
    · split
      · exact handles_usage _
      · split
        · exact handles_rejected _
        · exact ⟨by simp [String.append_eq_empty_iff], trivial⟩
  · exact handles_usage _

lemma handles_remove : Handles (fun _ => True) (s.remove args) := by
  rw [remove]
  split
  · split
    · exact handles_usage _
    · split
      · exact ⟨by simp [String.append_eq_empty_iff], trivial⟩
      · exact handles_rejected _
  · exact handles_usage _

/-- Every listed command is handled. -/
lemma handles_execute {id : CommandId} (hid : ∃ c ∈ menu.commands, c.id = id) :
    Handles (fun _ => True) (s.execute id args) := by
  obtain ⟨c, hc, rfl⟩ := hid
  simp only [menu, List.mem_cons, List.not_mem_nil, or_false] at hc
  rcases hc with rfl | rfl | rfl | rfl
  · exact s.handles_ping args
  · exact s.handles_list args
  · exact s.handles_add args
  · exact s.handles_remove args

/-- A command that is not listed is unknown. -/
lemma execute_of_unlisted {id : CommandId} (hid : ∀ c ∈ menu.commands, c.id ≠ id) :
    s.execute id args = (.error (.unknownCommand id), s) := by
  simp only [menu, List.forall_mem_cons] at hid
  obtain ⟨h0, h1, h2, h3, -⟩ := hid
  rw [execute]
  split
  · next h => exact absurd (CommandId.of_toNat h) h0
  · next h => exact absurd (CommandId.of_toNat h) h1
  · next h => exact absurd (CommandId.of_toNat h) h2
  · next h => exact absurd (CommandId.of_toNat h) h3
  · rfl

end Routes

/-! ### Datagram sockets -/

/-- Arguments that name no port are refused for their form. -/
lemma Port.handles_ofArguments {σ : Type} {P : σ → Prop} {s : σ} {args : String} {fault : LayerError}
    (h : Port.ofArguments args = .error fault) :
    Handles P (.error fault, s) := by
  rw [Port.ofArguments] at h
  split at h
  · split at h
    · cases h
      exact handles_usage _
    · split at h
      · cases h
        exact handles_usage _
      · cases h
  · cases h
    exact handles_usage _

namespace Datagrams

variable (s : Datagrams) (args : String)

lemma printPort_ne_empty (port : Port) : printPort port ≠ "" := by
  simp [printPort, String.append_eq_empty_iff]

lemma handles_bind : Handles (fun _ => True) (s.bind args) := by
  rw [bind]
  split
  · next hport => exact Port.handles_ofArguments hport
  · split
    · exact handles_rejected _
    · exact ⟨by simp [String.append_eq_empty_iff], trivial⟩

lemma handles_unbind : Handles (fun _ => True) (s.unbind args) := by
  rw [unbind]
  split
  · next hport => exact Port.handles_ofArguments hport
  · split
    · exact ⟨by simp [String.append_eq_empty_iff], trivial⟩
    · exact handles_rejected _

lemma handles_list : Handles (fun _ => True) (s.list args) := by
  rw [list]
  split
  · split
    · exact ⟨by decide, trivial⟩
    · next hempty =>
        have hkeys : s.bound.keys ≠ [] := by
          simpa [Table.isEmpty, Table.keys] using hempty
        exact ⟨joinLines_map_ne_empty hkeys printPort_ne_empty, trivial⟩
  · exact handles_usage _

/-- Every listed command is handled. -/
lemma handles_execute {id : CommandId} (hid : ∃ c ∈ menu.commands, c.id = id) :
    Handles (fun _ => True) (s.execute id args) := by
  obtain ⟨c, hc, rfl⟩ := hid
  simp only [menu, List.mem_cons, List.not_mem_nil, or_false] at hc
  rcases hc with rfl | rfl | rfl
  · exact s.handles_bind args
  · exact s.handles_unbind args
  · exact s.handles_list args

/-- A command that is not listed is unknown. -/
lemma execute_of_unlisted {id : CommandId} (hid : ∀ c ∈ menu.commands, c.id ≠ id) :
    s.execute id args = (.error (.unknownCommand id), s) := by
  simp only [menu, List.forall_mem_cons] at hid
  obtain ⟨h0, h1, h2, -⟩ := hid
  rw [execute]
  split
  · next h => exact absurd (CommandId.of_toNat h) h0
  · next h => exact absurd (CommandId.of_toNat h) h1
  · next h => exact absurd (CommandId.of_toNat h) h2
  · rfl

end Datagrams

/-! ### Streams -/

namespace Streams

variable (s : Streams) (args : String)

lemma handles_listen : Handles (fun _ => True) (s.listen args) := by
  rw [listen]
  split
  · next hport => exact Port.handles_ofArguments hport
  · split
    · exact handles_rejected _
    · exact ⟨by simp [String.append_eq_empty_iff], trivial⟩

lemma handles_connect : Handles (fun _ => True) (s.connect args) := by
  rw [connect]
  split
  · split
    · exact handles_usage _
    · split
      · exact handles_usage _
      · split
        · exact handles_rejected _
        · exact ⟨by simp [printConnection, String.append_eq_empty_iff], trivial⟩
  · exact handles_usage _

lemma handles_close : Handles (fun _ => True) (s.close args) := by
  rw [close]
  split
  · split
    · exact handles_usage _
    · split
      · exact ⟨by simp [printConnection, String.append_eq_empty_iff], trivial⟩
      · exact handles_rejected _
  · exact handles_usage _

lemma listenerLine_ne_empty (port : Port) : listenerLine port ≠ "" := by
  simp [listenerLine, String.append_eq_empty_iff]

lemma connectionLine_ne_empty (connection : UInt32 × Endpoint) :
    connectionLine connection ≠ "" := by
  simp [connectionLine, String.append_eq_empty_iff]

lemma handles_list : Handles (fun _ => True) (s.list args) := by
  rw [list]
  split
  · split
    · exact ⟨by decide, trivial⟩
    · next hlines =>
        refine ⟨joinLines_ne_empty hlines fun line hline => ?_, trivial⟩
        rcases List.mem_append.mp hline with h | h
        · obtain ⟨port, -, rfl⟩ := List.mem_map.mp h
          exact listenerLine_ne_empty port
        · obtain ⟨connection, -, rfl⟩ := List.mem_map.mp h
          exact connectionLine_ne_empty connection
  · exact handles_usage _

/-- Every listed command is handled. -/
lemma handles_execute {id : CommandId} (hid : ∃ c ∈ menu.commands, c.id = id) :
    Handles (fun _ => True) (s.execute id args) := by
  obtain ⟨c, hc, rfl⟩ := hid
  simp only [menu, List.mem_cons, List.not_mem_nil, or_false] at hc
  rcases hc with rfl | rfl | rfl | rfl
  · exact s.handles_listen args
  · exact s.handles_connect args
  · exact s.handles_close args
  · exact s.handles_list args

/-- A command that is not listed is unknown. -/
lemma execute_of_unlisted {id : CommandId} (hid : ∀ c ∈ menu.commands, c.id ≠ id) :
    s.execute id args = (.error (.unknownCommand id), s) := by
  simp only [menu, List.forall_mem_cons] at hid
  obtain ⟨h0, h1, h2, h3, -⟩ := hid
  rw [execute]
  split
  · next h => exact absurd (CommandId.of_toNat h) h0
  · next h => exact absurd (CommandId.of_toNat h) h1
  · next h => exact absurd (CommandId.of_toNat h) h2
  · next h => exact absurd (CommandId.of_toNat h) h3
  · rfl

end Streams

/-! ### Layers of any kind -/

namespace Service

/-- A state whose listing shows something. Only the interfaces have no words for an empty state. -/
def Populated : Service → Prop
  | link state => state.Populated
  | _ => True

lemma populated_initial (kind : LayerKind) : (initial kind).Populated := by
  cases kind with
  | link => exact Interfaces.populated_initial
  | net => trivial
  | udp => trivial
  | tcp => trivial

lemma kind_initial (kind : LayerKind) : (initial kind).kind = kind := by
  cases kind <;> rfl

/-- **Every listed command is handled**: it replies with a text that is not empty, or it is refused
for its arguments or the state; and the state after it is of the same kind and populated. -/
theorem handles_execute {s : Service} (h : s.Populated) {id : CommandId}
    (hid : ∃ c ∈ s.kind.menu.commands, c.id = id) (args : String) :
    Handles (fun next => next.kind = s.kind ∧ next.Populated) (s.execute id args) := by
  cases s with
  | link state => exact (state.handles_execute args h hid).map fun _ hnext => ⟨rfl, hnext⟩
  | net state => exact (state.handles_execute args hid).map fun _ _ => ⟨rfl, trivial⟩
  | udp state => exact (state.handles_execute args hid).map fun _ _ => ⟨rfl, trivial⟩
  | tcp state => exact (state.handles_execute args hid).map fun _ _ => ⟨rfl, trivial⟩

/-- A command that the menu of the kind does not list is unknown. -/
lemma execute_of_unlisted {s : Service} {id : CommandId}
    (hid : ∀ c ∈ s.kind.menu.commands, c.id ≠ id) (args : String) :
    s.execute id args = (.error (.unknownCommand id), s) := by
  cases s with
  | link state => rw [execute, state.execute_of_unlisted args hid]; rfl
  | net state => rw [execute, state.execute_of_unlisted args hid]; rfl
  | udp state => rw [execute, state.execute_of_unlisted args hid]; rfl
  | tcp state => rw [execute, state.execute_of_unlisted args hid]; rfl

/-- **Menu and commands agree**: a populated state answers that a command is unknown exactly when
the menu of its kind does not list it. -/
theorem execute_unknown_iff {s : Service} (h : s.Populated) (id : CommandId) (args : String) :
    (∃ j, (s.execute id args).1 = .error (.unknownCommand j)) ↔
      ∀ c ∈ s.kind.menu.commands, c.id ≠ id := by
  constructor
  · rintro ⟨j, hj⟩ c hc hid
    exact (handles_execute h ⟨c, hc, hid⟩ args).known j hj
  · intro hid
    exact ⟨id, by rw [execute_of_unlisted hid args]⟩

/-- A command that succeeds replies with a text that is not empty and keeps the kind. -/
lemma Populated.execute_ok {s next : Service} (h : s.Populated) {id : CommandId}
    {args reply : String} (hok : s.execute id args = (.ok reply, next)) :
    reply ≠ "" ∧ next.kind = s.kind ∧ next.Populated := by
  by_cases hid : ∃ c ∈ s.kind.menu.commands, c.id = id
  · have hhandled := handles_execute h hid args
    rw [hok] at hhandled
    exact hhandled
  · rw [execute_of_unlisted (fun c hc heq => hid ⟨c, hc, heq⟩)] at hok
    cases hok

end Service

end DaemonConsole
