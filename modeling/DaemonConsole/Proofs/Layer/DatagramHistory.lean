/-
The bound ports of a run, told by its commands.

A port is bound while the last command about it is one to bind it. Commands are about the number that
their word spells, so it does not matter how the number is written, and what is listed are numbers in
their own order.

* `Datagrams.Binds`, `Datagrams.Unbinds`: the commands about a port, however it is spelled;
* `Datagrams.Bound`: the ports that are bound behind a list of successful commands;
* `Datagrams.Keeps.execute`: a successful command keeps what is stored to what is bound;
* `Datagrams.execute_respelled`: two spellings of one port are answered alike;
* `Datagrams.Follows`: all that the successful commands tell of the ports;
* `Datagrams.bound_after`: they do so after every run.
-/
import DaemonConsole.Proofs.Layer.Effects
import DaemonConsole.Proofs.Layer.Ports
import DaemonConsole.Proofs.Machine
import DaemonConsole.Proofs.Text.Words
import DaemonConsole.Proofs.Network.Printed

namespace DaemonConsole

namespace Datagrams

/-- A command, as the step of a machine. -/
def command (s : Datagrams) (i : Invocation) : Except LayerError String × Datagrams :=
  s.execute i.command i.args

variable {s next : Datagrams} {i j : Invocation} {reply : String} {n m : Nat}

/-! ### Commands about a port -/

/-- A command to bind a port: one word that spells it. -/
def Binds (i : Invocation) (n : Nat) : Prop :=
  i.Gives menu "bind" Port.Spells n

/-- A command to free a port: one word that spells it. -/
def Unbinds (i : Invocation) (n : Nat) : Prop :=
  i.Gives menu "unbind" Port.Spells n

lemma calls_bind : i.Calls menu "bind" ↔ i.command = 0 :=
  Invocation.calls_iff rfl

lemma calls_unbind : i.Calls menu "unbind" ↔ i.command = 1 :=
  Invocation.calls_iff rfl

lemma calls_list : i.Calls menu "sockets" ↔ i.command = 2 :=
  Invocation.calls_iff rfl

lemma Binds.iff_eq (h : Binds i m) : Binds i n ↔ m = n :=
  Invocation.Gives.iff_eq h fun _ _ _ => Port.Spells.unique

lemma Unbinds.iff_eq (h : Unbinds i m) : Unbinds i n ↔ m = n :=
  Invocation.Gives.iff_eq h fun _ _ _ => Port.Spells.unique

/-! ### Successful commands -/

/-- A port is bound unless it already is. -/
lemma execute_bind_iff (hcalls : i.Calls menu "bind") :
    s.execute i.command i.args = (.ok reply, next) ↔
      ∃ port : Port, Binds i port.toNat ∧ s.bound.get? port = none ∧
        reply = "bound " ++ printPort port ∧ next = ⟨s.bound.insert port ()⟩ := by
  have hrun : s.execute i.command i.args = s.bind i.args := by
    rw [calls_bind.mp hcalls]
    rfl
  rw [hrun]
  constructor
  · intro h
    rw [bind] at h
    split at h
    · cases h
    · next port hport =>
        split at h
        · cases h
        · next hfree =>
            cases h
            exact ⟨port, ⟨hcalls, Port.ofArguments_iff_spells.mp hport⟩,
              Table.contains_eq_false_iff.mp (Bool.eq_false_iff.mpr hfree), rfl, rfl⟩
  · rintro ⟨port, ⟨-, hport⟩, hfree, rfl, rfl⟩
    have hstored : s.bound.contains port = false := Table.contains_eq_false_iff.mpr hfree
    simp [bind, Port.ofArguments_iff_spells.mpr hport, hstored]

/-- A port is freed if it is bound. -/
lemma execute_unbind_iff (hcalls : i.Calls menu "unbind") :
    s.execute i.command i.args = (.ok reply, next) ↔
      ∃ port : Port, Unbinds i port.toNat ∧ s.bound.get? port = some () ∧
        reply = "closed " ++ printPort port ∧ next = ⟨s.bound.erase port⟩ := by
  have hrun : s.execute i.command i.args = s.unbind i.args := by
    rw [calls_unbind.mp hcalls]
    rfl
  rw [hrun]
  constructor
  · intro h
    rw [unbind] at h
    split at h
    · cases h
    · next port hport =>
        split at h
        · next hstored =>
            cases h
            obtain ⟨u, hu⟩ := Option.isSome_iff_exists.mp hstored
            exact ⟨port, ⟨hcalls, Port.ofArguments_iff_spells.mp hport⟩, hu, rfl, rfl⟩
        · cases h
  · rintro ⟨port, ⟨-, hport⟩, hget, rfl, rfl⟩
    have hstored : s.bound.contains port = true := Option.isSome_iff_exists.mpr ⟨(), hget⟩
    simp [unbind, Port.ofArguments_iff_spells.mpr hport, hstored]

lemma execute_list (hcalls : i.Calls menu "sockets") :
    s.execute i.command i.args = s.list i.args := by
  rw [calls_list.mp hcalls]
  rfl

/-- The other commands keep the ports. -/
lemma execute_other (hbind : ¬ i.Calls menu "bind") (hunbind : ¬ i.Calls menu "unbind")
    (h : s.execute i.command i.args = (.ok reply, next)) : next = s := by
  rw [calls_bind] at hbind
  rw [calls_unbind] at hunbind
  rw [execute] at h
  split at h
  · next hid => exact absurd (UInt32.toNat_inj.mp hid) hbind
  · next hid => exact absurd (UInt32.toNat_inj.mp hid) hunbind
  · exact (congrArg Prod.snd h).symm.trans (s.snd_list i.args)
  · cases h

/-! ### What is bound -/

/-- A port is bound if the last command about it is one to bind it. -/
def Bound (past : List (Invocation × String)) (n : Nat) : Prop :=
  Since (fun _ e => Binds e.1 n) (fun e => Binds e.1 n ∨ Unbinds e.1 n) past

/-- What is stored is what is bound. -/
def Keeps (past : List (Invocation × String)) (s : Datagrams) : Prop :=
  ∀ port : Port, s.bound.get? port = some () ↔ Bound past port.toNat

variable {past : List (Invocation × String)}

/-- What is bound is a port. -/
lemma Bound.exists_port (h : Bound past n) : ∃ port : Port, port.toNat = n := by
  obtain ⟨e, -, -, -, word, -, hspells⟩ := h.exists_start
  exact hspells.exists_port

lemma keeps_initial : Keeps [] initial :=
  fun _ => iff_of_false (fun h => by cases h) not_since_nil

/-- A successful command keeps what is stored to what is bound. -/
lemma Keeps.execute (hs : Keeps past s) (h : s.execute i.command i.args = (.ok reply, next)) :
    Keeps (past ++ [(i, reply)]) next := by
  intro port
  rw [Bound, since_concat, ← Bound, ← hs port]
  by_cases hbind : i.Calls menu "bind"
  · obtain ⟨named, hbinds, -, -, rfl⟩ := (execute_bind_iff hbind).mp h
    have hunbinds : ¬ Unbinds i port.toNat := fun hunbinds =>
      hbind.not_calls (by decide) hunbinds.1
    -- the command is about one port, and the others stay what they are
    by_cases hport : named = port
    · subst hport
      rw [Table.get?_insert_self]
      simp [hbinds]
    · rw [Table.get?_insert_of_ne _ _ hport]
      simp [hbinds.iff_eq, UInt16.toNat_inj, hport, hunbinds]
  · have hbinds : ¬ Binds i port.toNat := fun hbinds => hbind hbinds.1
    by_cases hunbind : i.Calls menu "unbind"
    · obtain ⟨named, hunbinds, -, -, rfl⟩ := (execute_unbind_iff hunbind).mp h
      by_cases hport : named = port
      · subst hport
        rw [Table.get?_erase_self]
        simp [hbinds, hunbinds]
      · rw [Table.get?_erase_of_ne _ hport]
        simp [hunbinds.iff_eq, UInt16.toNat_inj, hport, hbinds]
    · obtain rfl := execute_other hbind hunbind h
      have hunbinds : ¬ Unbinds i port.toNat := fun hunbinds => hunbind hunbinds.1
      simp [hbinds, hunbinds]

/-- So it is after every run. -/
lemma keeps_after (calls : List Invocation) :
    Keeps (Machine.successes command initial calls)
      (Machine.after command initial calls) :=
  Machine.successes_induction (fun s i => s.atomic_execute i.args i.command)
    (fun _ _ _ _ _ h hs => hs.execute h) keeps_initial calls

/-! ### All that the commands tell -/

/-- A port is bound if it is not yet. -/
lemma Keeps.bind_iff (hs : Keeps past s) (hcalls : i.Calls menu "bind") :
    (∃ reply next, s.execute i.command i.args = (.ok reply, next)) ↔
      ∃ n, Binds i n ∧ ¬ Bound past n := by
  have hfree : ∀ port : Port, s.bound.get? port = none ↔ ¬ Bound past port.toNat := by
    intro port
    rw [← hs port]
    cases s.bound.get? port with
    | none => simp
    | some u => simp
  simp only [execute_bind_iff hcalls, hfree]
  constructor
  · rintro ⟨_, _, port, hbinds, hnone, -, -⟩
    exact ⟨port.toNat, hbinds, hnone⟩
  · rintro ⟨n, hbinds, hnone⟩
    obtain ⟨-, word, -, hspells⟩ := id hbinds
    obtain ⟨port, rfl⟩ := hspells.exists_port
    exact ⟨_, _, port, hbinds, hnone, rfl, rfl⟩

/-- A port is freed if it is bound. -/
lemma Keeps.unbind_iff (hs : Keeps past s) (hcalls : i.Calls menu "unbind") :
    (∃ reply next, s.execute i.command i.args = (.ok reply, next)) ↔
      ∃ n, Unbinds i n ∧ Bound past n := by
  simp only [execute_unbind_iff hcalls, hs _]
  constructor
  · rintro ⟨_, _, port, hunbinds, hbound, -, -⟩
    exact ⟨port.toNat, hunbinds, hbound⟩
  · rintro ⟨n, hunbinds, hbound⟩
    obtain ⟨port, rfl⟩ := hbound.exists_port
    exact ⟨_, _, port, hunbinds, hbound, rfl, rfl⟩

/-- Two spellings of one port are answered alike by every command, and leave the same ports. -/
lemma execute_respelled (hcommand : i.command = j.command)
    (hi : ∃ word, Text.words i.args = [word] ∧ Port.Spells word n)
    (hj : ∃ word, Text.words j.args = [word] ∧ Port.Spells word n) :
    s.execute i.command i.args = s.execute j.command j.args := by
  obtain ⟨port, rfl⟩ : ∃ port : Port, port.toNat = n := by
    obtain ⟨word, -, hspells⟩ := hi
    exact hspells.exists_port
  have hport : Port.ofArguments i.args = Port.ofArguments j.args :=
    (Port.ofArguments_iff_spells.mpr hi).trans (Port.ofArguments_iff_spells.mpr hj).symm
  have hlist : s.list i.args = s.list j.args := by
    obtain ⟨word, hword, -⟩ := hi
    obtain ⟨word', hword', -⟩ := hj
    rw [list, list, hword, hword']
  rw [execute, execute, hcommand, hlist, bind, bind, unbind, unbind, hport]

/-- A listed port is one word. -/
lemma isWord_printPort (port : Port) : Text.Word (printPort port) :=
  (Text.Word.of_all (by decide) (by decide)).append (Numeral.isWord_toString _)

/-- The listing of ports has one line for each, and no line says that there are none. -/
lemma exists_listing (hstored : s.bound.entries ≠ []) (hargs : Text.words args = []) :
    ∃ reply, s.list args = (.ok reply, s) ∧ reply ≠ "no sockets" ∧
      Text.lines reply = s.bound.keys.map printPort := by
  have hlines : Text.lines (Text.joinLines (s.bound.keys.map printPort))
      = s.bound.keys.map printPort := by
    refine Text.lines_joinLines (by simpa [Table.keys] using hstored) fun l hl => ?_
    obtain ⟨port, -, rfl⟩ := List.mem_map.mp hl
    exact (isWord_printPort port).feed_not_mem
  refine ⟨_, by simp [list, hargs, Table.isEmpty, hstored], fun heq => ?_, hlines⟩
  have hone : Text.lines "no sockets" = ["no sockets"] := by decide
  rw [heq, hone] at hlines
  obtain ⟨port, -, hport⟩ := List.mem_map.mp (hlines ▸ List.mem_singleton_self "no sockets")
  -- two words are not one
  exact absurd ((isWord_printPort port).letters ' ' (hport ▸ by decide)) (by decide)

/-- A reply lists ports, which are those that are bound, in ascending order and each on a line of its
own. -/
structure Lists (past : List (Invocation × String)) (ports : List Nat) (reply : String) : Prop where
  mem_iff : ∀ n, n ∈ ports ↔ Bound past n
  ascending : ports.Pairwise (· < ·)
  none_iff : reply = "no sockets" ↔ ∀ n, ¬ Bound past n
  lines : ports ≠ [] → Text.lines reply = ports.map fun n => "udp/" ++ toString n

/-- What is bound is listed. -/
lemma Keeps.exists_lists (hs : Keeps past s) (hcalls : i.Calls menu "sockets")
    (hargs : Text.words i.args = []) :
    ∃ ports reply, s.execute i.command i.args = (.ok reply, s) ∧ Lists past ports reply := by
  have hmem : ∀ n, n ∈ s.bound.keys.map UInt16.toNat ↔ Bound past n := by
    intro n
    rw [List.mem_map]
    constructor
    · rintro ⟨port, hport, rfl⟩
      obtain ⟨u, hget⟩ := Table.mem_keys_iff.mp hport
      exact (hs port).mp hget
    · intro hbound
      obtain ⟨port, rfl⟩ := hbound.exists_port
      exact ⟨port, Table.mem_keys_iff.mpr ⟨(), (hs port).mpr hbound⟩, rfl⟩
  have hascend : (s.bound.keys.map UInt16.toNat).Pairwise (· < ·) :=
    List.pairwise_map.mpr s.bound.ascending_keys
  have hempty : (∀ n, ¬ Bound past n) ↔ s.bound.entries = [] := by
    simp only [← hmem, ← List.eq_nil_iff_forall_not_mem, Table.keys, List.map_eq_nil_iff]
  rw [execute_list hcalls]
  by_cases hnone : s.bound.entries = []
  · refine ⟨_, "no sockets", ?_, hmem, hascend, iff_of_true rfl (hempty.mpr hnone), fun hne => ?_⟩
    · simp [list, hargs, Table.isEmpty, hnone]
    · exact absurd (by simp [Table.keys, hnone]) hne
  · obtain ⟨reply, hreply, hne, hlines⟩ := exists_listing hnone hargs
    refine ⟨_, reply, hreply, hmem, hascend, iff_of_false hne (hempty.not.mpr hnone), fun _ => ?_⟩
    rw [hlines, List.map_map]
    rfl

/-- Ports are listed unless there are arguments. -/
lemma Keeps.list_iff (hs : Keeps past s) (hcalls : i.Calls menu "sockets") :
    (∃ reply next, s.execute i.command i.args = (.ok reply, next)) ↔ Text.words i.args = [] := by
  constructor
  · rintro ⟨reply, next, h⟩
    rw [execute_list hcalls, list] at h
    split at h
    · next hargs => exact hargs
    · cases h
  · intro hargs
    obtain ⟨_, reply, hreply, -⟩ := hs.exists_lists hcalls hargs
    exact ⟨reply, s, hreply⟩

/-- What the successful commands of a run tell of the ports that it leaves bound. -/
structure Follows (past : List (Invocation × String)) (s : Datagrams) : Prop where
  /-- What is stored is what is bound. -/
  stored : Keeps past s
  /-- A port is bound if it is not yet, -/
  bind_iff : ∀ i : Invocation, i.Calls menu "bind" →
    ((∃ reply next, s.execute i.command i.args = (.ok reply, next)) ↔
      ∃ n, Binds i n ∧ ¬ Bound past n)
  /-- and freed if it is. -/
  unbind_iff : ∀ i : Invocation, i.Calls menu "unbind" →
    ((∃ reply next, s.execute i.command i.args = (.ok reply, next)) ↔
      ∃ n, Unbinds i n ∧ Bound past n)
  /-- However a port is spelled, a command about it is answered alike and leaves the same ports. -/
  respelled : ∀ (i j : Invocation) n, i.command = j.command →
    (∃ word, Text.words i.args = [word] ∧ Port.Spells word n) →
      (∃ word, Text.words j.args = [word] ∧ Port.Spells word n) →
        s.execute i.command i.args = s.execute j.command j.args
  /-- What is bound is listed, as long as there are no arguments. -/
  list_iff : ∀ i : Invocation, i.Calls menu "sockets" →
    ((∃ reply next, s.execute i.command i.args = (.ok reply, next)) ↔ Text.words i.args = [])
  listed : ∀ i : Invocation, i.Calls menu "sockets" → Text.words i.args = [] →
    ∃ ports reply, s.execute i.command i.args = (.ok reply, s) ∧ Lists past ports reply

/-- **The bound ports follow their commands**: after every run of commands on a layer without bound
ports, the commands that succeeded tell which ports are bound, which further commands succeed, and
what is listed. -/
theorem bound_after (calls : List Invocation) :
    Follows (Machine.successes command initial calls)
      (Machine.after command initial calls) where
  stored := keeps_after calls
  bind_iff _ hcalls := (keeps_after calls).bind_iff hcalls
  unbind_iff _ hcalls := (keeps_after calls).unbind_iff hcalls
  respelled _ _ _ hcommand hi hj := execute_respelled hcommand hi hj
  list_iff _ hcalls := (keeps_after calls).list_iff hcalls
  listed _ hcalls hargs := (keeps_after calls).exists_lists hcalls hargs

end Datagrams

end DaemonConsole
