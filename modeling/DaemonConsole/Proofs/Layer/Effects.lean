/-
What a command changes in a layer, and what it does not.

No command changes the kind of a layer, and the commands that only tell about its state do not change
it at all. A command that fails may have written to the state by then: some write first and look at
what was there to tell whether they succeeded. What they write on these ways is what was there.

* `Invocation`: a command with its arguments; `Invocation.Calls` names the command by its menu, and
  `Invocation.Gives` tells what its only word stands for;
* `LayerKind.queries`, `LayerKind.isQuery`: the commands that only tell about the state, by name and
  by identifier;
* `Service.kind_execute`: the kind is kept;
* `Service.atomic_execute`: a command that fails keeps the state, assembled from the exits of each
  command;
* `Service.state_of_query`: a query keeps the state.
-/
import DaemonConsole.Layer.Basic
import DaemonConsole.Proofs.Machine

namespace DaemonConsole

/-- A command with its arguments. -/
structure Invocation where
  command : CommandId
  args : String
  deriving DecidableEq, Repr

namespace Invocation

variable {α : Type} {i : Invocation} {menu : Menu} {name : String} {reads : String → α → Prop}

/-- An invocation is of the command that a menu lists under a name. -/
def Calls (i : Invocation) (menu : Menu) (name : String) : Prop :=
  (menu.find? name).map (·.id) = some i.command

instance (i : Invocation) (menu : Menu) (name : String) : Decidable (i.Calls menu name) :=
  inferInstanceAs (Decidable (_ = _))

/-- What the menu lists under the name tells whether an invocation is of it. -/
lemma calls_iff {id : CommandId} (h : (menu.find? name).map (·.id) = some id) :
    i.Calls menu name ↔ i.command = id := by
  rw [Calls, h, Option.some.injEq, eq_comm]

/-- It is of no other command. -/
lemma Calls.not_calls {name' : String} (h : i.Calls menu name)
    (hne : (menu.find? name).map (·.id) ≠ (menu.find? name').map (·.id)) :
    ¬ i.Calls menu name' :=
  fun h' => hne (h.trans h'.symm)

/-- An invocation gives the command of a name one word, and this reads as a value. -/
def Gives (i : Invocation) (menu : Menu) (name : String) (reads : String → α → Prop) (a : α) :
    Prop :=
  i.Calls menu name ∧ ∃ word, Text.words i.args = [word] ∧ reads word a

/-- It gives one value, as long as words read as one value at most. -/
lemma Gives.iff_eq {a b : α} (h : i.Gives menu name reads b)
    (hreads : ∀ word a b, reads word a → reads word b → a = b) :
    i.Gives menu name reads a ↔ b = a := by
  constructor
  · rintro ⟨-, word, hwords, hread⟩
    obtain ⟨-, word', hwords', hread'⟩ := h
    cases hwords.symm.trans hwords'
    exact hreads word b a hread' hread
  · rintro rfl
    exact h

end Invocation

/-! ### The single commands -/

open Machine (Atomic atomic_error atomic_ok)

namespace Interfaces

variable (s : Interfaces) (args : String)

/-- The listing of interfaces keeps them. -/
lemma snd_list : (s.list args).2 = s := by
  rw [list]
  split
  · rfl
  · rfl

/-- An interface that is not there is not changed. -/
lemma atomic_change (name : String) (f : Interface → Interface) (reply : String) :
    Atomic s (s.change name f reply) := by
  rw [change]
  split
  · exact atomic_error _
  · exact atomic_ok _ _

lemma atomic_setState (up : Bool) : Atomic s (s.setState up args) := by
  rw [setState]
  split
  · exact s.atomic_change _ _ _
  · exact atomic_error _

lemma atomic_setMtu : Atomic s (s.setMtu args) := by
  rw [setMtu]
  split
  · split
    · exact atomic_error _
    · split
      · exact s.atomic_change _ _ _
      · exact atomic_error _
  · exact atomic_error _

/-- A command that fails leaves the interfaces. -/
lemma atomic_execute (id : CommandId) : Atomic s (s.execute id args) := by
  rw [execute]
  split
  · exact fun _ _ => s.snd_list args
  · exact s.atomic_setState args true
  · exact s.atomic_setState args false
  · exact s.atomic_setMtu args
  · exact atomic_error _

end Interfaces

namespace Routes

variable (s : Routes) (args : String)

/-- Reaching for an address keeps the routes. -/
lemma snd_ping : (s.ping args).2 = s := by
  rw [ping]
  split
  · split
    · rfl
    · split
      · rfl
      · split
        · rfl
        · rfl
  · rfl

/-- The listing of routes keeps them. -/
lemma snd_list : (s.list args).2 = s := by
  rw [list]
  split
  · split
    · rfl
    · rfl
  · rfl

/-- A route that is there is seen before the table is written. -/
lemma atomic_add : Atomic s (s.add args) := by
  rw [add]
  split
  · split
    · exact atomic_error _
    · exact atomic_error _
    · split
      · exact atomic_error _
      · split
        · exact atomic_error _
        · exact atomic_ok _ _
  · exact atomic_error _

/-- Removing a route that is not there writes the table as it was. -/
lemma atomic_remove : Atomic s (s.remove args) := by
  rw [remove]
  split
  · split
    · exact atomic_error _
    · split
      · exact atomic_ok _ _
      · next subnet _ habsent =>
          have hget := Table.contains_eq_false_iff.mp (Bool.eq_false_iff.mpr habsent)
          rw [Table.erase_of_get? hget]
          exact atomic_error _
  · exact atomic_error _

/-- A command that fails leaves the routes. -/
lemma atomic_execute (id : CommandId) : Atomic s (s.execute id args) := by
  rw [execute]
  split
  · exact fun _ _ => s.snd_ping args
  · exact fun _ _ => s.snd_list args
  · exact s.atomic_add args
  · exact s.atomic_remove args
  · exact atomic_error _

end Routes

namespace Datagrams

variable (s : Datagrams) (args : String)

/-- The listing of bound ports keeps them. -/
lemma snd_list : (s.list args).2 = s := by
  rw [list]
  split
  · split
    · rfl
    · rfl
  · rfl

/-- Binding a port that is bound already writes the set as it was. -/
lemma atomic_bind : Atomic s (s.bind args) := by
  rw [bind]
  split
  · exact atomic_error _
  · split
    · next port _ hbound =>
        obtain ⟨_, hget⟩ := Option.isSome_iff_exists.mp hbound
        rw [Table.insert_of_get? hget]
        exact atomic_error _
    · exact atomic_ok _ _

/-- Freeing a port that is not bound does, too. -/
lemma atomic_unbind : Atomic s (s.unbind args) := by
  rw [unbind]
  split
  · exact atomic_error _
  · split
    · exact atomic_ok _ _
    · next port _ hfree =>
        have hget := Table.contains_eq_false_iff.mp (Bool.eq_false_iff.mpr hfree)
        rw [Table.erase_of_get? hget]
        exact atomic_error _

/-- A command that fails leaves the ports. -/
lemma atomic_execute (id : CommandId) : Atomic s (s.execute id args) := by
  rw [execute]
  split
  · exact s.atomic_bind args
  · exact s.atomic_unbind args
  · exact fun _ _ => s.snd_list args
  · exact atomic_error _

end Datagrams

namespace Streams

variable (s : Streams) (args : String)

/-- The listing of listeners and connections keeps them and the next number. -/
lemma snd_list : (s.list args).2 = s := by
  rw [list]
  split
  · split
    · rfl
    · rfl
  · rfl

/-- Listening on a port that is listened on already writes the set as it was. -/
lemma atomic_listen : Atomic s (s.listen args) := by
  rw [listen]
  split
  · exact atomic_error _
  · split
    · next port _ hlistening =>
        obtain ⟨_, hget⟩ := Option.isSome_iff_exists.mp hlistening
        rw [Table.insert_of_get? hget]
        exact atomic_error _
    · exact atomic_ok _ _

/-- That there is a number behind the next one is seen before the state is written. -/
lemma atomic_connect : Atomic s (s.connect args) := by
  rw [connect]
  split
  · split
    · exact atomic_error _
    · split
      · exact atomic_error _
      · split
        · exact atomic_error _
        · exact atomic_ok _ _
  · exact atomic_error _

/-- Closing a connection that is not open writes the table as it was. -/
lemma atomic_close : Atomic s (s.close args) := by
  rw [close]
  split
  · split
    · exact atomic_error _
    · split
      · exact atomic_ok _ _
      · next number _ _ hnone =>
          rw [Table.erase_of_get? hnone]
          exact atomic_error _
  · exact atomic_error _

/-- A command that fails leaves the listeners, the connections and the next number. -/
lemma atomic_execute (id : CommandId) : Atomic s (s.execute id args) := by
  rw [execute]
  split
  · exact s.atomic_listen args
  · exact s.atomic_connect args
  · exact s.atomic_close args
  · exact fun _ _ => s.snd_list args
  · exact atomic_error _

end Streams

/-! ### Layers of any kind -/

namespace LayerKind

/-- The names of the commands that only tell about the state. -/
def queries : LayerKind → List String
  | link => ["show"]
  | net => ["ping", "routes"]
  | udp => ["sockets"]
  | tcp => ["conns"]

/-- Whether an identifier is that of a command which only tells about the state. -/
def isQuery (kind : LayerKind) (id : CommandId) : Bool :=
  kind.menu.commands.any fun c => c.id == id && kind.queries.contains c.name

variable {id : CommandId}

lemma isQuery_link : link.isQuery id = true ↔ id = 0 := by
  simp [isQuery, menu, Interfaces.menu, queries, @eq_comm _ _ id]

lemma isQuery_net : net.isQuery id = true ↔ id = 0 ∨ id = 1 := by
  simp [isQuery, menu, Routes.menu, queries, @eq_comm _ _ id]

lemma isQuery_udp : udp.isQuery id = true ↔ id = 2 := by
  simp [isQuery, menu, Datagrams.menu, queries, @eq_comm _ _ id]

lemma isQuery_tcp : tcp.isQuery id = true ↔ id = 3 := by
  simp [isQuery, menu, Streams.menu, queries, @eq_comm _ _ id]

end LayerKind

namespace Service

variable (s : Service)

/-- No command changes the kind of a state, whether it succeeds or not. -/
lemma kind_execute (id : CommandId) (args : String) : (s.execute id args).2.kind = s.kind := by
  cases s <;> rfl

/-- **Failed commands keep the state**: whatever a command writes before it fails, it leaves the state
as it was. -/
theorem atomic_execute (id : CommandId) (args : String) : Atomic s (s.execute id args) := by
  intro fault hfault
  cases s with
  | link state => exact congrArg link (state.atomic_execute args id fault hfault)
  | net state => exact congrArg net (state.atomic_execute args id fault hfault)
  | udp state => exact congrArg udp (state.atomic_execute args id fault hfault)
  | tcp state => exact congrArg tcp (state.atomic_execute args id fault hfault)

/-- **Queries keep the state**: a command that only tells about the state leaves it as it is. -/
theorem state_of_query {id : CommandId} (hquery : s.kind.isQuery id = true) (args : String) :
    (s.execute id args).2 = s := by
  cases s with
  | link state =>
      obtain rfl := LayerKind.isQuery_link.mp hquery
      exact congrArg link (state.snd_list args)
  | net state =>
      obtain rfl | rfl := LayerKind.isQuery_net.mp hquery
      · exact congrArg net (state.snd_ping args)
      · exact congrArg net (state.snd_list args)
  | udp state =>
      obtain rfl := LayerKind.isQuery_udp.mp hquery
      exact congrArg udp (state.snd_list args)
  | tcp state =>
      obtain rfl := LayerKind.isQuery_tcp.mp hquery
      exact congrArg tcp (state.snd_list args)

end Service

end DaemonConsole
