/-
Subnets as they are typed and as they are listed.

A subnet is typed as an address, a slash and a length, and one subnet may be typed in several ways.
Subnets are listed in an order of their own, which is that of their ranks.

* `Subnet.Spells`: the texts of a subnet; `Subnet.parse?_eq_some_iff` says that these are read;
* `Subnet.Before`: the order in which subnets are listed; `Subnet.rank_lt_iff` says that ranks are in
  this order.
-/
import DaemonConsole.Network.Subnet
import DaemonConsole.Proofs.Text.Numeral
import Mathlib.Tactic.Lemma

namespace DaemonConsole

/-- The two families have 32 and 128 bits. -/
lemma IpAddr.width_eq (a : IpAddr) : a.width = if a.isV4 then 32 else 128 := by
  cases a <;> rfl

namespace Subnet

/-! ### Spelling -/

/-- A text is an address, a slash and a numeral, cut at its first slash, and they are those of a
subnet, whose length is at most 32 for a 32-bit address and at most 128 otherwise. -/
def Spells (s : String) (p : Subnet) : Prop :=
  ∃ address length, s = address ++ "/" ++ length ∧ '/' ∉ address.toList ∧
    IpAddr.parse? address = some p.address ∧ Numeral.readChars length.toList = some p.length ∧
      p.length ≤ if p.address.isV4 then 32 else 128

/-- A text with a slash reads as the address before its first one and the numeral behind it. -/
lemma parse?_append {address : String} (haddress : '/' ∉ address.toList) (length : String) :
    parse? (address ++ "/" ++ length) = (IpAddr.parse? address).bind fun a =>
      (Numeral.read? UInt8.size length).bind fun n =>
        if h : n ≤ a.width then some ⟨a, n, h⟩ else none := by
  have hslash : ∀ c ∈ address.toList, (c != '/') = true := fun c hc =>
    bne_iff_ne.mpr fun heq => haddress (heq ▸ hc)
  have hstop : ('/' :: length.toList).takeWhile (· != '/') = [] :=
    List.takeWhile_cons_of_neg (by decide)
  have htext : (address ++ "/" ++ length).toList = address.toList ++ '/' :: length.toList := by
    rw [String.toList_append, String.toList_append, List.append_assoc]
    rfl
  rw [parse?]
  simp only [htext, takeWhile_run hslash hstop, dropWhile_run hslash hstop, String.ofList_toList]
  rfl

/-- The texts of a subnet are those that are read as it. -/
lemma parse?_eq_some_iff {s : String} {p : Subnet} : parse? s = some p ↔ Spells s p := by
  constructor
  · intro h
    have hcut : ∃ address length, s = address ++ "/" ++ length ∧ '/' ∉ address.toList := by
      cases hrest : s.toList.dropWhile (· != '/') with
      | nil =>
          rw [parse?] at h
          simp only [hrest] at h
          cases h
      | cons c rest =>
          have hc : c = '/' := by
            have hhead := List.head?_dropWhile_not (· != '/') s.toList
            simpa [hrest] using hhead
          refine ⟨String.ofList (s.toList.takeWhile (· != '/')), String.ofList rest, ?_, ?_⟩
          · rw [← String.toList_inj]
            have hjoin := List.takeWhile_append_dropWhile (p := (· != '/')) (l := s.toList)
            rw [hrest, hc] at hjoin
            simpa using hjoin.symm
          · intro hmem
            rw [String.toList_ofList] at hmem
            simpa using List.mem_takeWhile_imp hmem
    obtain ⟨address, length, rfl, hslash⟩ := hcut
    rw [parse?_append hslash, Option.bind_eq_some_iff] at h
    obtain ⟨a, haddress, h⟩ := h
    obtain ⟨n, hlength, h⟩ := Option.bind_eq_some_iff.mp h
    split at h
    · next hfits =>
        cases h
        refine ⟨address, length, rfl, hslash, haddress, ?_, IpAddr.width_eq a ▸ hfits⟩
        exact (Option.filter_eq_some_iff.mp hlength).1
    · cases h
  · rintro ⟨address, length, rfl, hslash, haddress, hlength, hfits⟩
    have hread : Numeral.read? UInt8.size length = some p.length :=
      Option.filter_eq_some_iff.mpr ⟨hlength, decide_eq_true p.length_lt⟩
    rw [parse?_append hslash, haddress, Option.bind_some, hread, Option.bind_some,
      dif_pos p.length_le]

/-- A text is that of one subnet at most. -/
lemma Spells.unique {s : String} {p q : Subnet} (hp : Spells s p) (hq : Spells s q) : p = q :=
  Option.some.inj ((parse?_eq_some_iff.mpr hp).symm.trans (parse?_eq_some_iff.mpr hq))

/-! ### Order -/

/-- Subnets are listed by family, the 32-bit one first, then by address, and then by length. -/
def Before (p q : Subnet) : Prop :=
  if p.address.isV4 = q.address.isV4 then
    p.address.toNat < q.address.toNat ∨ p.address.toNat = q.address.toNat ∧ p.length < q.length
  else p.address.isV4 = true

/-- Ranks are in the order of the listing. -/
lemma rank_lt_iff {p q : Subnet} : p.rank < q.rank ↔ p.Before q := by
  have hp := p.length_lt
  have hq := q.length_lt
  obtain ⟨a, m, hm⟩ := p
  obtain ⟨b, n, hn⟩ := q
  simp only [rank, Before] at hp hq ⊢
  cases a with
  | v4 x =>
      have hx := x.isLt
      cases b with
      | v4 y => simp [IpAddr.isV4, IpAddr.toNat]; omega
      | v6 y => simp [IpAddr.isV4, IpAddr.toNat]; omega
  | v6 x =>
      cases b with
      | v4 y =>
          have hy := y.isLt
          simp [IpAddr.isV4, IpAddr.toNat]
          omega
      | v6 y => simp [IpAddr.isV4, IpAddr.toNat]; omega

end Subnet

end DaemonConsole
