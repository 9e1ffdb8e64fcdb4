/-
The routes that runs of commands lead to.

Only adding and removing change the routes, and only where they succeed. A route is added for a
subnet that has none, to a gateway of the family of the subnet; so in whatever order commands are
given, every stored gateway is of the family of its subnet.

* `Routes.command`: a command as the step of a machine;
* `Routes.add_eq_ok_iff`, `Routes.remove_eq_ok_iff`: when adding and removing succeed, and what they
  leave;
* `Routes.execute_cases`: the three ways in which a successful command can leave the routes;
* `Routes.matched_after`: gateways and subnets are of one family after every run.
-/
import DaemonConsole.Proofs.Layer.Effects

namespace DaemonConsole

namespace Routes

/-- A command, as the step of a machine. -/
def command (s : Routes) (i : Invocation) : Except LayerError String × Routes :=
  s.execute i.command i.args

variable {s next : Routes} {args reply : String}

/-! ### Successful commands -/

/-- A route is added for two words that read as a subnet without a route and a gateway of the same
family. -/
lemma add_eq_ok_iff : s.add args = (.ok reply, next) ↔
    ∃ subnetWord gatewayWord subnet gateway,
      Text.words args = [subnetWord, gatewayWord] ∧ Subnet.parse? subnetWord = some subnet ∧
        IpAddr.parse? gatewayWord = some gateway ∧ subnet.address.isV4 = gateway.isV4 ∧
          s.gateways.get? subnet = none ∧
            reply = "added " ++ subnet.print ++ " via " ++ gateway.print ∧
              next = ⟨s.gateways.insert subnet gateway⟩ := by
  constructor
  · intro h
    rw [add] at h
    split at h
    · next subnetWord gatewayWord hwords =>
        split at h
        · cases h
        · cases h
        · next subnet gateway hsubnet hgateway =>
            split at h
            · cases h
            · next hfamily =>
                split at h
                · cases h
                · next hfree =>
                    cases h
                    exact ⟨subnetWord, gatewayWord, subnet, gateway, hwords, hsubnet, hgateway,
                      by simpa using hfamily,
                      Table.contains_eq_false_iff.mp (Bool.eq_false_iff.mpr hfree), rfl, rfl⟩
    · cases h
  · rintro ⟨subnetWord, gatewayWord, subnet, gateway, hwords, hsubnet, hgateway, hfamily, hfree,
      rfl, rfl⟩
    have hstored : s.gateways.contains subnet = false := Table.contains_eq_false_iff.mpr hfree
    simp [add, hwords, hsubnet, hgateway, hfamily, hstored]

/-- A route is removed for one word that reads as a subnet with a route. -/
lemma remove_eq_ok_iff : s.remove args = (.ok reply, next) ↔
    ∃ word subnet gateway,
      Text.words args = [word] ∧ Subnet.parse? word = some subnet ∧
        s.gateways.get? subnet = some gateway ∧
          reply = "removed " ++ subnet.print ∧ next = ⟨s.gateways.erase subnet⟩ := by
  constructor
  · intro h
    rw [remove] at h
    split at h
    · next word hwords =>
        split at h
        · cases h
        · next subnet hsubnet =>
            split at h
            · next hstored =>
                cases h
                obtain ⟨gateway, hgateway⟩ := Option.isSome_iff_exists.mp hstored
                exact ⟨word, subnet, gateway, hwords, hsubnet, hgateway, rfl, rfl⟩
            · cases h
    · cases h
  · rintro ⟨word, subnet, gateway, hwords, hsubnet, hgateway, rfl, rfl⟩
    have hstored : s.gateways.contains subnet = true := Option.isSome_iff_exists.mpr ⟨_, hgateway⟩
    simp [remove, hwords, hsubnet, hstored]

/-- A command that succeeds keeps the routes, adds one or removes one. -/
lemma execute_cases {id : CommandId} (h : s.execute id args = (.ok reply, next)) :
    next = s ∨ s.add args = (.ok reply, next) ∨ s.remove args = (.ok reply, next) := by
  rw [execute] at h
  split at h
  · exact .inl ((congrArg Prod.snd h).symm.trans (s.snd_ping args))
  · exact .inl ((congrArg Prod.snd h).symm.trans (s.snd_list args))
  · exact .inr (.inl h)
  · exact .inr (.inr h)
  · cases h

/-! ### Families -/

/-- Every gateway is of the family of its subnet. -/
def Matched (s : Routes) : Prop :=
  ∀ subnet gateway, s.gateways.get? subnet = some gateway → subnet.address.isV4 = gateway.isV4

/-- There is nothing to match without routes. -/
lemma matched_initial : initial.Matched := by
  intro subnet gateway h
  cases h

/-- A successful command keeps gateways and subnets matched. -/
lemma Matched.execute {id : CommandId} (hs : s.Matched)
    (h : s.execute id args = (.ok reply, next)) : next.Matched := by
  rcases execute_cases h with rfl | hadd | hremove
  · exact hs
  · obtain ⟨_, _, subnet, gateway, -, -, -, hfamily, -, -, rfl⟩ := add_eq_ok_iff.mp hadd
    intro p g hget
    rw [Table.get?_insert] at hget
    split at hget
    · next hrank =>
        cases hget
        rwa [← Ranked.rank_injective hrank]
    · exact hs p g hget
  · obtain ⟨_, subnet, gateway, -, -, -, -, rfl⟩ := remove_eq_ok_iff.mp hremove
    intro p g hget
    rw [Table.get?_erase] at hget
    split at hget
    · cases hget
    · exact hs p g hget

/-- After every run of commands gateways and subnets are of one family. -/
lemma matched_after (calls : List Invocation) : (Machine.after command initial calls).Matched :=
  Machine.after_of_atomic (fun s i => s.atomic_execute i.args i.command)
    (fun _ _ _ _ h hs => Matched.execute hs h) matched_initial calls

end Routes

end DaemonConsole
