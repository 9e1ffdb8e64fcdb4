/-
The routes of a run, told by its commands.

A route that was added stands until a command about its subnet succeeds: one that removes the subnet,
or, behind that, one that adds it anew. What is stored after a run is what stands, and so whether a
command succeeds, what it changes and what is listed are told by the commands that succeeded before
it.

* `Routes.Adds`, `Routes.Removes`: the commands about a subnet, however it is spelled;
* `Routes.Standing`: the routes that stand behind a list of successful commands;
* `Routes.Keeps.execute`: a successful command keeps what is stored to what stands;
* `Routes.get?_of_add`, `Routes.get?_of_remove`, `Routes.remove_of_add`: what the commands about a
  subnet change;
* `Routes.Follows`: all that the successful commands tell of the routes;
* `Routes.follows_after`: they do so after every run.
-/
import DaemonConsole.Proofs.Layer.Listings
import DaemonConsole.Proofs.Network.Spelling

namespace DaemonConsole

namespace Routes

variable {s next : Routes} {i j : Invocation} {reply : String} {p q : Subnet} {g g' : IpAddr}

/-! ### Commands about a subnet -/

/-- A command to add a route: two words that spell a subnet and an address. -/
def Adds (i : Invocation) (p : Subnet) (g : IpAddr) : Prop :=
  i.Calls menu "addroute" ∧ ∃ subnetWord gatewayWord,
    Text.words i.args = [subnetWord, gatewayWord] ∧ Subnet.Spells subnetWord p ∧
      IpAddr.parse? gatewayWord = some g

/-- A command to remove a route: one word that spells a subnet. -/
def Removes (i : Invocation) (p : Subnet) : Prop :=
  i.Gives menu "delroute" Subnet.Spells p

lemma calls_list : i.Calls menu "routes" ↔ i.command = 1 :=
  Invocation.calls_iff rfl

lemma calls_add : i.Calls menu "addroute" ↔ i.command = 2 :=
  Invocation.calls_iff rfl

lemma calls_remove : i.Calls menu "delroute" ↔ i.command = 3 :=
  Invocation.calls_iff rfl

/-- A command to add is about one subnet and one gateway, -/
lemma Adds.iff_eq (h : Adds i q g') : Adds i p g ↔ q = p ∧ g' = g := by
  constructor
  · rintro ⟨-, _, _, hwords, hsubnet, hgateway⟩
    obtain ⟨-, _, _, hwords', hsubnet', hgateway'⟩ := h
    cases hwords.symm.trans hwords'
    exact ⟨hsubnet'.unique hsubnet, Option.some.inj (hgateway'.symm.trans hgateway)⟩
  · rintro ⟨rfl, rfl⟩
    exact h

/-- and one to remove about one subnet. -/
lemma Removes.iff_eq (h : Removes i q) : Removes i p ↔ q = p :=
  Invocation.Gives.iff_eq h fun _ _ _ => Subnet.Spells.unique

/-! ### Successful commands about a subnet -/

lemma execute_add (hcalls : i.Calls menu "addroute") :
    s.execute i.command i.args = s.add i.args := by
  rw [calls_add.mp hcalls]
  rfl

/-- A route is added to a gateway of the family of its subnet, for a subnet without a route. -/
lemma execute_add_iff (hcalls : i.Calls menu "addroute") :
    s.execute i.command i.args = (.ok reply, next) ↔
      ∃ p g, Adds i p g ∧ p.address.isV4 = g.isV4 ∧ s.gateways.get? p = none ∧
        reply = "added " ++ p.print ++ " via " ++ g.print ∧ next = ⟨s.gateways.insert p g⟩ := by
  rw [execute_add hcalls, add_eq_ok_iff]
  constructor
  · rintro ⟨subnetWord, gatewayWord, p, g, hwords, hsubnet, hgateway, hrest⟩
    exact ⟨p, g, ⟨hcalls, _, _, hwords, Subnet.parse?_eq_some_iff.mp hsubnet, hgateway⟩, hrest⟩
  · rintro ⟨p, g, ⟨-, subnetWord, gatewayWord, hwords, hsubnet, hgateway⟩, hrest⟩
    exact ⟨_, _, p, g, hwords, Subnet.parse?_eq_some_iff.mpr hsubnet, hgateway, hrest⟩

/-- The route of a subnet is removed if it is stored. -/
lemma execute_remove_iff (hcalls : i.Calls menu "delroute") :
    s.execute i.command i.args = (.ok reply, next) ↔
      ∃ p g, Removes i p ∧ s.gateways.get? p = some g ∧ reply = "removed " ++ p.print ∧
        next = ⟨s.gateways.erase p⟩ := by
  have hrun : s.execute i.command i.args = s.remove i.args := by
    rw [calls_remove.mp hcalls]
    rfl
  rw [hrun, remove_eq_ok_iff]
  constructor
  · rintro ⟨word, p, g, hwords, hsubnet, hrest⟩
    exact ⟨p, g, ⟨hcalls, word, hwords, Subnet.parse?_eq_some_iff.mp hsubnet⟩, hrest⟩
  · rintro ⟨p, g, ⟨-, word, hwords, hsubnet⟩, hrest⟩
    exact ⟨word, p, g, hwords, Subnet.parse?_eq_some_iff.mpr hsubnet, hrest⟩

/-- Adding changes what is found for its subnet, and nothing else, -/
lemma get?_of_add (hadds : Adds i p g) (h : s.execute i.command i.args = (.ok reply, next))
    (q : Subnet) : next.gateways.get? q = if q = p then some g else s.gateways.get? q := by
  obtain ⟨_, _, hadds', -, -, -, rfl⟩ := (execute_add_iff hadds.1).mp h
  obtain ⟨rfl, rfl⟩ := hadds.iff_eq.mp hadds'
  split
  · next hq => rw [hq, Table.get?_insert_self]
  · next hq => rw [Table.get?_insert_of_ne _ _ (Ne.symm hq)]

/-- and so does removing. -/
lemma get?_of_remove (hremoves : Removes i p)
    (h : s.execute i.command i.args = (.ok reply, next)) (q : Subnet) :
    next.gateways.get? q = if q = p then none else s.gateways.get? q := by
  obtain ⟨_, -, hremoves', -, -, rfl⟩ := (execute_remove_iff hremoves.1).mp h
  obtain rfl := hremoves.iff_eq.mp hremoves'
  split
  · next hq => rw [hq, Table.get?_erase_self]
  · next hq => rw [Table.get?_erase_of_ne _ (Ne.symm hq)]

/-- Removing a subnet right behind adding it leaves the routes from before. -/
lemma remove_of_add (hadds : Adds i p g) (hremoves : Removes j p)
    (h : s.execute i.command i.args = (.ok reply, next)) :
    ∃ reply', next.execute j.command j.args = (.ok reply', s) := by
  obtain ⟨_, _, hadds', -, hfree, -, rfl⟩ := (execute_add_iff hadds.1).mp h
  obtain ⟨rfl, rfl⟩ := hadds.iff_eq.mp hadds'
  refine ⟨_, (execute_remove_iff hremoves.1).mpr
    ⟨p, g, hremoves, Table.get?_insert_self _ _ _, rfl, ?_⟩⟩
  rw [Table.erase_insert g hfree]

/-- The other commands keep the routes. -/
lemma execute_other (hadd : ¬ i.Calls menu "addroute") (hremove : ¬ i.Calls menu "delroute")
    (h : s.execute i.command i.args = (.ok reply, next)) : next = s := by
  rw [calls_add] at hadd
  rw [calls_remove] at hremove
  rw [execute] at h
  split at h
  · exact (congrArg Prod.snd h).symm.trans (s.snd_ping i.args)
  · exact (congrArg Prod.snd h).symm.trans (s.snd_list i.args)
  · next hid => exact absurd (UInt32.toNat_inj.mp hid) hadd
  · next hid => exact absurd (UInt32.toNat_inj.mp hid) hremove
  · cases h

/-! ### What stands -/

/-- A route stands if it was added and no command about its subnet has succeeded since. -/
def Standing (past : List (Invocation × String)) (p : Subnet) (g : IpAddr) : Prop :=
  Since (fun _ e => Adds e.1 p g) (fun e => Removes e.1 p ∨ ∃ g', Adds e.1 p g') past

/-- What is stored is what stands. -/
def Keeps (past : List (Invocation × String)) (s : Routes) : Prop :=
  ∀ p g, s.gateways.get? p = some g ↔ Standing past p g

variable {past : List (Invocation × String)}

lemma keeps_initial : Keeps [] initial :=
  fun _ _ => iff_of_false (fun h => by cases h) not_since_nil

/-- A successful command keeps what is stored to what stands. -/
lemma Keeps.execute (hs : Keeps past s) (h : s.execute i.command i.args = (.ok reply, next)) :
    Keeps (past ++ [(i, reply)]) next := by
  intro p g
  rw [Standing, since_concat, ← Standing, ← hs p g]
  by_cases hadd : i.Calls menu "addroute"
  · obtain ⟨q, g', hadds, -⟩ := (execute_add_iff hadd).mp h
    have hremoves : ¬ Removes i p := fun hremoves => hadd.not_calls (by decide) hremoves.1
    -- the command is about `q`, and what stands for the other subnets stands on
    rw [get?_of_add hadds h]
    by_cases hq : p = q
    · simp [hadds.iff_eq, hq]
    · simp [hadds.iff_eq, hq, Ne.symm hq, hremoves]
  · have hadds : ∀ g', ¬ Adds i p g' := fun g' hadds => hadd hadds.1
    by_cases hremove : i.Calls menu "delroute"
    · obtain ⟨q, -, hremoves, -⟩ := (execute_remove_iff hremove).mp h
      rw [get?_of_remove hremoves h]
      by_cases hq : p = q
      · subst hq
        simp [hremoves, hadds]
      · simp [hremoves.iff_eq, hadds, hq, Ne.symm hq]
    · obtain rfl := execute_other hadd hremove h
      have hremoves : ¬ Removes i p := fun hremoves => hremove hremoves.1
      simp [hadds, hremoves]

/-- So it is after every run. -/
lemma keeps_after (calls : List Invocation) :
    Keeps (Machine.successes command initial calls)
      (Machine.after command initial calls) :=
  Machine.successes_induction (fun s i => s.atomic_execute i.args i.command)
    (fun _ _ _ _ _ h hs => hs.execute h) keeps_initial calls

/-! ### All that the commands tell -/

/-- A route is added for a subnet without a route that stands. -/
lemma Keeps.add_iff (hs : Keeps past s) (hcalls : i.Calls menu "addroute") :
    (∃ reply next, s.execute i.command i.args = (.ok reply, next)) ↔
      ∃ p g, Adds i p g ∧ p.address.isV4 = g.isV4 ∧ ∀ g', ¬ Standing past p g' := by
  have hfree : ∀ p, s.gateways.get? p = none ↔ ∀ g, ¬ Standing past p g := by
    intro p
    rw [Option.eq_none_iff_forall_ne_some]
    exact forall_congr' fun g => not_congr (hs p g)
  simp only [execute_add_iff hcalls, hfree]
  constructor
  · rintro ⟨_, _, p, g, hadds, hfamily, hnone, -, -⟩
    exact ⟨p, g, hadds, hfamily, hnone⟩
  · rintro ⟨p, g, hadds, hfamily, hnone⟩
    exact ⟨_, _, p, g, hadds, hfamily, hnone, rfl, rfl⟩

/-- A route that stands is removed. -/
lemma Keeps.remove_iff (hs : Keeps past s) (hcalls : i.Calls menu "delroute") :
    (∃ reply next, s.execute i.command i.args = (.ok reply, next)) ↔
      ∃ p g, Removes i p ∧ Standing past p g := by
  simp only [execute_remove_iff hcalls, hs _ _]
  constructor
  · rintro ⟨_, _, p, g, hremoves, hstands, -, -⟩
    exact ⟨p, g, hremoves, hstands⟩
  · rintro ⟨p, g, hremoves, hstands⟩
    exact ⟨_, _, p, g, hremoves, hstands, rfl, rfl⟩

/-- A reply lists routes, which are those that stand, in the order of their subnets and each on a line
of its own. -/
structure Lists (past : List (Invocation × String)) (routes : List (Subnet × IpAddr))
    (reply : String) : Prop where
  mem_iff : ∀ p g, (p, g) ∈ routes ↔ Standing past p g
  ascending : routes.Pairwise fun a b => a.1.Before b.1
  none : routes = [] → reply = "no routes"
  lines : routes ≠ [] → Text.lines reply = routes.map line

/-- What stands is listed. -/
lemma Keeps.exists_lists (hs : Keeps past s) (hcalls : i.Calls menu "routes")
    (hargs : Text.words i.args = []) :
    ∃ routes reply, s.execute i.command i.args = (.ok reply, s) ∧ Lists past routes reply := by
  have hrun : s.execute i.command i.args = s.list i.args := by
    rw [calls_list.mp hcalls]
    rfl
  have hmem : ∀ p g, (p, g) ∈ s.gateways.entries ↔ Standing past p g :=
    fun p g => Table.mem_entries_iff.trans (hs p g)
  have hascend : s.gateways.entries.Pairwise fun a b => a.1.Before b.1 :=
    s.gateways.ascending.imp Subnet.rank_lt_iff.mp
  rw [hrun]
  by_cases hstored : s.gateways.entries = []
  · refine ⟨_, "no routes", ?_, hmem, hascend, fun _ => rfl, fun hne => absurd hstored hne⟩
    simp [list, hargs, Table.isEmpty, hstored]
  · obtain ⟨reply, hreply, hlines⟩ := exists_listing hstored hargs
    exact ⟨_, reply, hreply, hmem, hascend, fun hnil => absurd hnil hstored, fun _ => hlines⟩

/-- What the successful commands of a run tell of the routes that it leaves. -/
structure Follows (past : List (Invocation × String)) (s : Routes) : Prop where
  /-- What is stored is what stands. -/
  stored : Keeps past s
  /-- Lengths and gateways fit the family of their subnet. -/
  fits : ∀ p g, s.gateways.get? p = some g →
    p.length ≤ (if p.address.isV4 then 32 else 128) ∧ p.address.isV4 = g.isV4
  /-- A route is added for a subnet without a route, to a gateway of its family, -/
  add_iff : ∀ i : Invocation, i.Calls menu "addroute" →
    ((∃ reply next, s.execute i.command i.args = (.ok reply, next)) ↔
      ∃ p g, Adds i p g ∧ p.address.isV4 = g.isV4 ∧ ∀ g', ¬ Standing past p g')
  /-- and nothing else changes. -/
  added : ∀ i p g reply next, Adds i p g → s.execute i.command i.args = (.ok reply, next) →
    ∀ q, next.gateways.get? q = if q = p then some g else s.gateways.get? q
  /-- A route is removed for a subnet that has one, -/
  remove_iff : ∀ i : Invocation, i.Calls menu "delroute" →
    ((∃ reply next, s.execute i.command i.args = (.ok reply, next)) ↔
      ∃ p g, Removes i p ∧ Standing past p g)
  /-- and nothing else changes. -/
  removed : ∀ i p reply next, Removes i p → s.execute i.command i.args = (.ok reply, next) →
    ∀ q, next.gateways.get? q = if q = p then none else s.gateways.get? q
  /-- Removing a subnet right behind adding it leaves the routes from before. -/
  restored : ∀ i j p g reply next, Adds i p g → Removes j p →
    s.execute i.command i.args = (.ok reply, next) →
      ∃ reply', next.execute j.command j.args = (.ok reply', s)
  /-- What stands is listed. -/
  listed : ∀ i : Invocation, i.Calls menu "routes" → Text.words i.args = [] →
    ∃ routes reply, s.execute i.command i.args = (.ok reply, s) ∧ Lists past routes reply

/-- **The routes follow their commands**: after every run of commands on a layer without routes, the
commands that succeeded tell what is stored, which further commands succeed and what they change, and
what is listed. -/
theorem follows_after (calls : List Invocation) :
    Follows (Machine.successes command initial calls)
      (Machine.after command initial calls) where
  stored := keeps_after calls
  fits p g hget := ⟨p.length_le.trans_eq p.address.width_eq, matched_after calls p g hget⟩
  add_iff _ hcalls := (keeps_after calls).add_iff hcalls
  added _ _ _ _ _ hadds h := get?_of_add hadds h
  remove_iff _ hcalls := (keeps_after calls).remove_iff hcalls
  removed _ _ _ _ hremoves h := get?_of_remove hremoves h
  restored _ _ _ _ _ _ hadds hremoves h := remove_of_add hadds hremoves h
  listed _ hcalls hargs := (keeps_after calls).exists_lists hcalls hargs

end Routes

end DaemonConsole
