/-
Routes to one network.

The table tells subnets apart by all bits of their addresses, while addresses are sent by the leading
ones only. So a network has a route for every way in which the bits behind the length were filled up
when one was added, and it has at most one route if these bits were always left empty.

* `Routes.refused_iff`: a command to add is refused if the very subnet has a route;
* `Routes.bare_after`: where only subnets without bits behind their length are added, no others are
  stored;
* `Routes.routes_to_network`: the routes that one network has after a run;
* `Routes.twinRoutes`: a run that stores two routes to one network.
-/
import DaemonConsole.Proofs.Layer.RouteHistory
import DaemonConsole.Proofs.Network.Leading

namespace DaemonConsole

namespace Routes

variable {s : Routes} {i : Invocation} {p : Subnet} {g : IpAddr}

/-- A command to add is refused, as there is a route already, if the very subnet has one. -/
lemma refused_iff (h : Adds i p g) (hfamily : p.address.isV4 = g.isV4) :
    s.execute i.command i.args = (.error (.rejected (.routeExists p)), s) ↔
      ∃ g', s.gateways.get? p = some g' := by
  obtain ⟨hcalls, subnetWord, gatewayWord, hwords, hsubnet, hgateway⟩ := h
  rw [← Subnet.parse?_eq_some_iff] at hsubnet
  rw [execute_add hcalls, add, ← Option.isSome_iff_exists]
  change _ ↔ s.gateways.contains p = true
  simp only [hwords, hsubnet, hgateway, hfamily, bne_self_eq_false, Bool.false_eq_true, if_false]
  cases s.gateways.contains p with
  | false => simp
  | true => simp

/-- Where only subnets without bits behind their length are added, no others are stored. -/
lemma bare_after {calls : List Invocation} (h : ∀ i ∈ calls, ∀ p g, Adds i p g → p.Bare)
    (hstored : (Machine.after command initial calls).gateways.get? p = some g) : p.Bare := by
  obtain ⟨-, e, he, hadds⟩ := Since.exists_start ((keeps_after calls p g).mp hstored)
  exact h e.1 (Machine.mem_of_mem_successes he) p g hadds

/-- **The routes to one network**, after every run of commands on a layer without routes:

* a command to add is refused, as there is a route already, exactly if a stored subnet of the network
  has the same bits behind its length;
* two stored subnets of one network are the same exactly if they have the same bits behind their
  length;
* so where only subnets without such bits are added, a network has at most one route, and a command
  to add another one is refused, however the subnet is spelled. -/
theorem routes_to_network (calls : List Invocation) :
    let s := Machine.after command initial calls
    (∀ i p g, Adds i p g → p.address.isV4 = g.isV4 →
      (s.execute i.command i.args = (.error (.rejected (.routeExists p)), s) ↔
        ∃ q g', s.gateways.get? q = some g' ∧ p.SameNetwork q ∧
          ∀ k, p.length ≤ k → p.address.bit k = q.address.bit k)) ∧
    (∀ p q g g', s.gateways.get? p = some g → s.gateways.get? q = some g' → p.SameNetwork q →
      (p = q ↔ ∀ k, p.length ≤ k → p.address.bit k = q.address.bit k)) ∧
    ((∀ i ∈ calls, ∀ p g, Adds i p g → p.Bare) →
      (∀ p q g g', s.gateways.get? p = some g → s.gateways.get? q = some g' → p.SameNetwork q →
        p = q) ∧
      ∀ i p q g g', Adds i p g → p.Bare → p.address.isV4 = g.isV4 →
        s.gateways.get? q = some g' → p.SameNetwork q →
          s.execute i.command i.args = (.error (.rejected (.routeExists p)), s)) := by
  refine ⟨fun i p g hadds hfamily => ?_, fun p q g g' _ _ hsame => hsame.eq_iff, fun hbare =>
    ⟨fun p q g g' hp hq hsame => ?_, fun i p q g g' hadds hp hfamily hq hsame => ?_⟩⟩
  · rw [refused_iff hadds hfamily]
    constructor
    · rintro ⟨g', hstored⟩
      exact ⟨p, g', hstored, fun _ => Iff.rfl, fun _ _ => rfl⟩
    · rintro ⟨q, g', hstored, hsame, hhost⟩
      obtain rfl := hsame.eq_iff.mpr hhost
      exact ⟨g', hstored⟩
  · exact hsame.eq_of_bare (bare_after hbare hp) (bare_after hbare hq)
  · obtain rfl := hsame.eq_of_bare hp (bare_after hbare hq)
    exact (refused_iff hadds hfamily).mpr ⟨g', hq⟩

/-- The network of `10.0.0.0/8`, without bits behind its length. -/
def tenNet : Subnet :=
  ⟨.v4 0x0A000000, 8, by decide⟩

/-- The same network with a bit behind the length. -/
def tenNetOne : Subnet :=
  ⟨.v4 0x0A000001, 8, by decide⟩

lemma bare_tenNet : tenNet.Bare := by
  intro i hi
  rcases Nat.lt_or_ge i 32 with hlt | hge
  · have hbits : ∀ i < 32, 8 ≤ i → (0x0A000000#32).getMsbD i = false := by decide
    exact hbits i hlt hi
  · exact BitVec.getMsbD_of_ge _ _ hge

/-- A run that adds a route for the first of them in two spellings. -/
def respelledRoutes : List Invocation :=
  [⟨2, "10.0.0.0/8 192.0.2.1"⟩, ⟨2, "10.0.0.0/+08 192.0.2.2"⟩]

/-- The second spelling is refused. -/
theorem respelledRoutes_refused :
    let s := Machine.after command initial respelledRoutes
    (∀ i ∈ respelledRoutes, ∀ p g, Adds i p g → p.Bare) ∧
      s.gateways.get? tenNet = some (.v4 0xC0000201) ∧
        s.execute 2 "10.0.0.0/+08 192.0.2.2" = (.error (.rejected (.routeExists tenNet)), s) := by
  have hfirst : Adds ⟨2, "10.0.0.0/8 192.0.2.1"⟩ tenNet (.v4 0xC0000201) :=
    ⟨rfl, "10.0.0.0/8", "192.0.2.1", by decide, Subnet.parse?_eq_some_iff.mp (by decide), by decide⟩
  have hsecond : Adds ⟨2, "10.0.0.0/+08 192.0.2.2"⟩ tenNet (.v4 0xC0000202) :=
    ⟨rfl, "10.0.0.0/+08", "192.0.2.2", by decide, Subnet.parse?_eq_some_iff.mp (by decide),
      by decide⟩
  have hbare : ∀ i ∈ respelledRoutes, ∀ p g, Adds i p g → p.Bare := by
    intro i hi p g hadds
    simp only [respelledRoutes, List.mem_cons, List.not_mem_nil, or_false] at hi
    rcases hi with rfl | rfl
    · obtain ⟨rfl, -⟩ := hfirst.iff_eq.mp hadds
      exact bare_tenNet
    · obtain ⟨rfl, -⟩ := hsecond.iff_eq.mp hadds
      exact bare_tenNet
  have hstored : (Machine.after command initial respelledRoutes).gateways.get? tenNet
      = some (.v4 0xC0000201) := by decide
  obtain ⟨-, -, hroutes⟩ := routes_to_network respelledRoutes
  exact ⟨hbare, hstored, (hroutes hbare).2 _ tenNet tenNet _ _ hsecond bare_tenNet rfl hstored
    fun _ => Iff.rfl⟩

/-- A run that adds a route for each of the two. -/
def twinRoutes : List Invocation :=
  [⟨2, "10.0.0.0/8 192.0.2.1"⟩, ⟨2, "10.0.0.1/8 192.0.2.2"⟩]

/-- Neither is refused: both are stored, and one network has two routes. -/
theorem twinRoutes_share_network :
    let s := Machine.after command initial twinRoutes
    Machine.answers command initial twinRoutes
        = [.ok "added 10.0.0.0/8 via 192.0.2.1", .ok "added 10.0.0.1/8 via 192.0.2.2"] ∧
      s.gateways.get? tenNet = some (.v4 0xC0000201) ∧
        s.gateways.get? tenNetOne = some (.v4 0xC0000202) ∧
          (∀ a, tenNet.Contains a ↔ tenNetOne.Contains a) ∧ tenNet ≠ tenNetOne :=
  ⟨rfl, by decide, by decide, Subnet.sameNetwork_iff.mpr ⟨rfl, rfl, by decide⟩, by decide⟩

end Routes

end DaemonConsole
