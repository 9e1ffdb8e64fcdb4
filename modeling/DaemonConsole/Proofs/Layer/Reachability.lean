/-
Where an address is sent to: the longest match.

Of the stored routes whose subnet contains an address, the one with the most leading bits that count
takes it, and of several with as many bits the one with the greatest address. The table keeps its
routes in ascending order, so that is the last route of greatest length.

* `Routes.Takes`: the route that an address takes, said without the table's order;
* `Routes.best_eq_some`, `Routes.best_eq_none_iff`: the choice finds this route if there is one;
* `Routes.Reaches`: what is told of the way to an address;
* `Routes.ping_longest_match`: after every run of commands, that is what is told.
-/
import DaemonConsole.Proofs.Layer.RouteTable
import DaemonConsole.Proofs.Network.Leading

namespace DaemonConsole

/-- Of subnets of one family and one length, the one of greater rank has the greater address. -/
lemma Subnet.toNat_le_of_rank_le {p q : Subnet} (hfamily : p.address.isV4 = q.address.isV4)
    (hlength : p.length = q.length) (h : p.rank ≤ q.rank) :
    p.address.toNat ≤ q.address.toNat := by
  rw [rank, rank, hfamily, hlength] at h
  omega

namespace Routes

/-! ### The last of the longest routes -/

/-- No route is chosen exactly if there is none to choose from. -/
lemma foldl_longer_eq_none_iff {routes : List (Subnet × IpAddr)} :
    routes.foldl longer none = none ↔ routes = [] := by
  induction routes using List.reverseRecOn with
  | nil => simp
  | append_singleton routes route ih =>
      have hchosen : ∀ kept, longer kept route ≠ none := by
        intro kept
        cases kept with
        | none => simp [longer]
        | some kept =>
            rw [longer]
            split <;> simp
      simp [hchosen]

/-- The chosen route is one of the routes and none is longer; if the routes ascend, none of its
length comes behind it. -/
lemma foldl_longer_eq_some {routes : List (Subnet × IpAddr)} {chosen : Subnet × IpAddr}
    (hascend : routes.Pairwise fun a b => a.1.rank < b.1.rank)
    (h : routes.foldl longer none = some chosen) :
    chosen ∈ routes ∧ ∀ route ∈ routes, route.1.length ≤ chosen.1.length ∧
      (route.1.length = chosen.1.length → route.1.rank ≤ chosen.1.rank) := by
  induction routes using List.reverseRecOn generalizing chosen with
  | nil => cases h
  | append_singleton routes last ih =>
      obtain ⟨hfront, -, hlast⟩ := List.pairwise_append.mp hascend
      have hbehind : ∀ route ∈ routes, route.1.rank < last.1.rank :=
        fun route hroute => hlast route hroute last List.mem_cons_self
      rw [List.foldl_append, List.foldl_cons, List.foldl_nil] at h
      cases hkept : routes.foldl longer none with
      | none =>
          -- there is only one route
          obtain rfl := foldl_longer_eq_none_iff.mp hkept
          rw [hkept] at h
          cases h
          simp
      | some kept =>
          obtain ⟨hmem, hlongest⟩ := ih hfront hkept
          rw [hkept, longer] at h
          split at h
          · -- the last route is as long as the one kept so far, and behind all of them
            next hlonger =>
              cases h
              refine ⟨by simp, fun route hroute => ?_⟩
              rcases List.mem_append.mp hroute with hroute | hroute
              · have hlength := (hlongest route hroute).1
                exact ⟨by omega, fun _ => Nat.le_of_lt (hbehind route hroute)⟩
              · rw [List.mem_singleton.mp hroute]
                exact ⟨Nat.le_refl _, fun _ => Nat.le_refl _⟩
          · next hshorter =>
              cases h
              refine ⟨List.mem_append_left _ hmem, fun route hroute => ?_⟩
              rcases List.mem_append.mp hroute with hroute | hroute
              · exact hlongest route hroute
              · rw [List.mem_singleton.mp hroute]
                exact ⟨by omega, fun hlength => by omega⟩

/-! ### The route that an address takes -/

/-- A route takes an address if it is stored and its subnet contains the address, and among the
stored subnets that do so none is longer and none of this length has a greater address. -/
structure Takes (s : Routes) (target : IpAddr) (subnet : Subnet) (gateway : IpAddr) : Prop where
  stored : s.gateways.get? subnet = some gateway
  contains : subnet.Contains target
  longest : ∀ other g, s.gateways.get? other = some g → other.Contains target →
    other.length ≤ subnet.length
  greatest : ∀ other g, s.gateways.get? other = some g → other.Contains target →
    other.length = subnet.length → other.address.toNat ≤ subnet.address.toNat

variable {s : Routes} {target : IpAddr}

/-- The routes to choose from are the stored ones whose subnet contains the address. -/
lemma mem_candidates_iff {subnet : Subnet} {gateway : IpAddr} :
    (subnet, gateway) ∈ s.gateways.entries.filter (fun route => route.1.covers target)
      ↔ s.gateways.get? subnet = some gateway ∧ subnet.Contains target := by
  rw [List.mem_filter, Table.mem_entries_iff, Subnet.covers_iff]

/-- A route is chosen only if it takes the address. -/
lemma best_eq_some {route : Subnet × IpAddr} (h : s.best target = some route) :
    s.Takes target route.1 route.2 := by
  have hascend : (s.gateways.entries.filter fun route => route.1.covers target).Pairwise
      fun a b => a.1.rank < b.1.rank := s.gateways.ascending.filter _
  obtain ⟨hmem, hlongest⟩ := foldl_longer_eq_some hascend h
  obtain ⟨hstored, hcontains⟩ := mem_candidates_iff.mp hmem
  refine ⟨hstored, hcontains, fun other g hget hother => ?_, fun other g hget hother hlength => ?_⟩
  · exact (hlongest (other, g) (mem_candidates_iff.mpr ⟨hget, hother⟩)).1
  · have hrank := (hlongest (other, g) (mem_candidates_iff.mpr ⟨hget, hother⟩)).2 hlength
    exact Subnet.toNat_le_of_rank_le (hother.1.trans hcontains.1.symm) hlength hrank

/-- No route is chosen exactly if no stored subnet contains the address. -/
lemma best_eq_none_iff : s.best target = none ↔
    ∀ subnet gateway, s.gateways.get? subnet = some gateway → ¬ subnet.Contains target := by
  rw [best, foldl_longer_eq_none_iff, List.eq_nil_iff_forall_not_mem]
  constructor
  · intro hnone subnet gateway hget hcontains
    exact hnone (subnet, gateway) (mem_candidates_iff.mpr ⟨hget, hcontains⟩)
  · intro hnone route hroute
    obtain ⟨hget, hcontains⟩ := mem_candidates_iff.mp hroute
    exact hnone route.1 route.2 hget hcontains

/-! ### What is told of an address -/

/-- What is told of the way to an address: it is the host's own, or no stored subnet contains it, or
the route that takes it leads to a gateway of its family. -/
inductive Reaches (s : Routes) (target : IpAddr) : Except LayerError String × Routes → Prop where
  /-- The addresses in `127.0.0.0/8`, and `::1`, whatever the routes. -/
  | own : Subnet.ownHost.Contains target ∨ target = .v6 1 →
      Reaches s target (.ok ("reply from " ++ target.print ++ ": local"), s)
  /-- No stored subnet contains the address. -/
  | nowhere : ¬ (Subnet.ownHost.Contains target ∨ target = .v6 1) →
      (∀ subnet gateway, s.gateways.get? subnet = some gateway → ¬ subnet.Contains target) →
      Reaches s target (.error (.rejected (.unreachable target)), s)
  /-- The longest match. -/
  | through (subnet : Subnet) (gateway : IpAddr) :
      ¬ (Subnet.ownHost.Contains target ∨ target = .v6 1) → s.Takes target subnet gateway →
      gateway.isV4 = target.isV4 →
      Reaches s target (.ok ("reply from " ++ target.print ++ " via " ++ gateway.print), s)

/-- **Longest match**: after every run of commands on a layer without routes, what is told of an
address is the way that it takes: it is the host's own, or no stored subnet contains it, or it goes
to the gateway of the longest stored subnet that contains it, of several the one of the greatest
address, and this gateway is of the family of the address. -/
theorem ping_longest_match (calls : List Invocation) {args word : String} {target : IpAddr}
    (hargs : Text.words args = [word]) (htarget : IpAddr.parse? word = some target) :
    (Machine.after command initial calls).Reaches target
      ((Machine.after command initial calls).ping args) := by
  have hmatched := matched_after calls
  generalize Machine.after command initial calls = s at hmatched
  simp only [ping, hargs, htarget]
  cases hown : target.isLoopback with
  | true => exact .own (IpAddr.isLoopback_iff.mp hown)
  | false =>
      have hforeign : ¬ (Subnet.ownHost.Contains target ∨ target = .v6 1) := by
        rw [← IpAddr.isLoopback_iff, hown]
        exact Bool.false_ne_true
      cases hbest : s.best target with
      | none => exact .nowhere hforeign (best_eq_none_iff.mp hbest)
      | some route =>
          have htakes := best_eq_some hbest
          have hfamily := hmatched route.1 route.2 htakes.stored
          exact .through route.1 route.2 hforeign htakes
            (hfamily.symm.trans htakes.contains.1)

/-- A route for every address, two for subnets that contain the same addresses, and one that is
refused because its gateway is of the other family. -/
def forkedRoutes : List Invocation :=
  [⟨2, "0.0.0.0/0 192.0.2.1"⟩, ⟨2, "10.0.0.1/8 192.0.2.2"⟩, ⟨2, "10.0.0.0/8 192.0.2.3"⟩,
    ⟨2, "10.0.0.2/8 ::1"⟩]

/-- Of the two subnets that contain the same addresses the one of the greater address is taken. -/
theorem forkedRoutes_takes_greatest :
    let s := Machine.after command initial forkedRoutes
    Text.words " 10.1.2.3" = ["10.1.2.3"] ∧
      IpAddr.parse? "10.1.2.3" = some (.v4 0x0A010203) ∧
        s.Reaches (.v4 0x0A010203) (s.ping " 10.1.2.3") ∧
          (s.ping " 10.1.2.3").1 = .ok "reply from 10.1.2.3 via 192.0.2.2" := by
  have hwords : Text.words " 10.1.2.3" = ["10.1.2.3"] := by decide
  have hread : IpAddr.parse? "10.1.2.3" = some (.v4 0x0A010203) := by decide
  exact ⟨hwords, hread, ping_longest_match forkedRoutes hwords hread, rfl⟩

end Routes

end DaemonConsole
