/-
What a subnet contains.

A subnet contains the addresses of its family that start with its leading bits: all of the family if
none count, and a single one if all do. Of two subnets that have an address in common, the longer one
lies within the other.

The bits that count are found by a mask, which is a word of ones shifted to the left by 32 or 128 less
the length. What is read as a subnet has a length for which this difference exists.

* `Subnet.contains_iff_of_length_eq_zero`, `Subnet.contains_iff_of_length_eq_width`: the shortest and
  the longest subnets;
* `Subnet.Contains.subset_iff`: which of two subnets lies within the other;
* `Subnet.shiftedLeft?`, `Subnet.unmasked`: shifts and differences of words;
  `Subnet.mask_eq_shiftedLeft?` makes a mask of them;
* `Subnet.parse?_append_eq_some_iff`, `Subnet.exists_parse?_append_iff`: what an address and a length
  are read as, and that the lengths that are read are those that can be taken off the width;
* `Subnet.covers_leading_bits`: the masks find out what a subnet contains.
-/
import DaemonConsole.Proofs.Network.Leading
import DaemonConsole.Proofs.Network.Spelling

namespace DaemonConsole

/-- Behind its last bit no bit of an address is set. -/
lemma IpAddr.bit_of_width_le {a : IpAddr} {i : Nat} (h : a.width ≤ i) : a.bit i = false := by
  cases a with
  | v4 bits => exact BitVec.getMsbD_of_ge bits i h
  | v6 bits => exact BitVec.getMsbD_of_ge bits i h

/-- The width of an address is a small number. -/
lemma IpAddr.width_lt (a : IpAddr) : a.width < 2 ^ 32 := by
  rw [width_eq]
  split <;> decide

namespace Subnet

variable {p q : Subnet} {a b : IpAddr}

/-! ### The shortest and the longest subnets -/

/-- Where no bits count, all addresses of the family are contained. -/
lemma contains_iff_of_length_eq_zero (h : p.length = 0) :
    p.Contains a ↔ p.address.isV4 = a.isV4 := by
  refine and_iff_left fun i hi => ?_
  rw [h] at hi
  exact absurd hi (Nat.not_lt_zero i)

/-- Where all bits count, a single address is contained. -/
lemma contains_iff_of_length_eq_width (h : p.length = p.address.width) :
    p.Contains a ↔ p.address = a := by
  constructor
  · rintro ⟨hfamily, hbits⟩
    have hwidth : p.address.width = a.width := by
      rw [IpAddr.width_eq, IpAddr.width_eq, hfamily]
    refine IpAddr.eq_of_bit_eq hfamily fun i => ?_
    rcases Nat.lt_or_ge i p.address.width with hlt | hge
    · exact hbits i (h ▸ hlt)
    · rw [IpAddr.bit_of_width_le hge, IpAddr.bit_of_width_le (hwidth ▸ hge)]
  · rintro rfl
    exact p.contains_address

/-! ### Subnets with an address in common -/

/-- The longer of two subnets with an address in common lies within the other. -/
lemma Contains.subset (hp : p.Contains a) (hq : q.Contains a) (h : p.length ≤ q.length)
    (hb : q.Contains b) : p.Contains b := by
  refine ⟨hp.1.trans (hq.1.symm.trans hb.1), fun i hi => ?_⟩
  have hi' : i < q.length := Nat.lt_of_lt_of_le hi h
  calc p.address.bit i = a.bit i := hp.2 i hi
    _ = q.address.bit i := (hq.2 i hi').symm
    _ = b.bit i := hb.2 i hi'

/-- Which of two subnets with an address in common lies within the other is told by their lengths. -/
lemma Contains.subset_iff (hp : p.Contains a) (hq : q.Contains a) :
    (∀ b, q.Contains b → p.Contains b) ↔ p.length ≤ q.length :=
  ⟨length_le_of_subset, fun h _ => hp.subset hq h⟩

/-! ### Masks in words -/

/-- A word shifted to the left by less than its width; there is no other shift. -/
def shiftedLeft? {width : Nat} (word : BitVec width) (places : BitVec 32) : Option (BitVec width) :=
  if places.toNat < width then some (word <<< places.toNat) else none

/-- The number of bits that do not count, as a difference of 32-bit words, which may wrap around. -/
def unmasked (width length : Nat) : BitVec 32 :=
  BitVec.ofNat 32 width - BitVec.ofNat 32 length

section Words

variable {width length : Nat}

/-- Small numbers can be taken off one another as words if they can be as numbers. -/
lemma not_usubOverflow_iff (hwidth : width < 2 ^ 32) (hlength : length < 2 ^ 32) :
    BitVec.usubOverflow (BitVec.ofNat 32 width) (BitVec.ofNat 32 length) = false
      ↔ length ≤ width := by
  rw [BitVec.usubOverflow, BitVec.toNat_ofNat, BitVec.toNat_ofNat, Nat.mod_eq_of_lt hwidth,
    Nat.mod_eq_of_lt hlength, decide_eq_false_iff_not, Nat.not_lt]

/-- The difference is that of the numbers then. -/
lemma toNat_unmasked (hwidth : width < 2 ^ 32) (h : length ≤ width) :
    (unmasked width length).toNat = width - length := by
  have hlength : length < 2 ^ 32 := Nat.lt_of_le_of_lt h hwidth
  have hexact := (not_usubOverflow_iff hwidth hlength).mpr h
  rw [unmasked, BitVec.toNat_sub_of_not_usubOverflow (by simp [hexact]), BitVec.toNat_ofNat,
    BitVec.toNat_ofNat, Nat.mod_eq_of_lt hwidth, Nat.mod_eq_of_lt hlength]

/-- A mask is a word of ones that is shifted to the left, and zero where there is no such shift. -/
lemma mask_eq_shiftedLeft? (hwidth : width < 2 ^ 32) (h : length ≤ width) :
    mask width length
      = (shiftedLeft? (BitVec.allOnes width) (unmasked width length)).getD 0 := by
  rw [mask, shiftedLeft?, toNat_unmasked hwidth h]
  split
  · rfl
  · next hall => exact BitVec.shiftLeft_eq_zero (Nat.not_lt.mp hall)

end Words

/-! ### Lengths that are read -/

section Reading

variable {address length : String} {n : Nat} (hslash : '/' ∉ address.toList)
  (haddress : IpAddr.parse? address = some a) (hlength : Numeral.read? UInt8.size length = some n)

include hslash haddress hlength

/-- An address, a slash and the numeral of a byte are read as the subnet that has the two, if there is
one. -/
lemma parse?_append_eq_some_iff :
    parse? (address ++ "/" ++ length) = some p ↔ p.address = a ∧ p.length = n := by
  rw [parse?_append hslash, haddress, Option.bind_some, hlength, Option.bind_some]
  obtain ⟨a', n', hfits'⟩ := p
  by_cases hfits : n ≤ a.width
  · simp [hfits, eq_comm]
  · rw [dif_neg hfits]
    refine iff_of_false (Option.some_ne_none _).symm ?_
    rintro ⟨rfl, rfl⟩
    exact hfits hfits'

/-- They are read exactly if the length can be taken off the width of the address. -/
lemma exists_parse?_append_iff : (∃ p, parse? (address ++ "/" ++ length) = some p) ↔
    BitVec.usubOverflow (BitVec.ofNat 32 a.width) (BitVec.ofNat 32 n) = false := by
  have hbyte : n < UInt8.size := of_decide_eq_true (Option.filter_eq_some_iff.mp hlength).2
  rw [not_usubOverflow_iff a.width_lt (Nat.lt_trans hbyte (by decide))]
  simp only [parse?_append_eq_some_iff hslash haddress hlength]
  constructor
  · rintro ⟨p, rfl, rfl⟩
    exact p.length_le
  · intro hfits
    exact ⟨⟨a, n, hfits⟩, rfl, rfl⟩

end Reading

/-! ### Membership -/

/-- **Membership is agreement of leading bits**: an address is found in a subnet exactly if it is of
its family and they have the same leading bits, as many as count. So it is with all addresses of the
family if no bits count, and with the address of the subnet alone if all of them do.

The mask that finds this out is a word of ones, shifted by 32 or 128 less the length, and zero where
that is the whole width. For what is read as a subnet this difference of words does not wrap around:
an address with a length behind its slash is read, as the subnet of the two, exactly if it does not.

Of two subnets that have an address in common, one contains what the other does exactly if it is not
longer. -/
theorem covers_leading_bits :
    (∀ p a, covers p a = true ↔
      p.address.isV4 = a.isV4 ∧ ∀ i < p.length, p.address.bit i = a.bit i) ∧
    (∀ p a, p.length = 0 → (covers p a = true ↔ p.address.isV4 = a.isV4)) ∧
    (∀ p a, p.length = (if p.address.isV4 then 32 else 128) →
      (covers p a = true ↔ p.address = a)) ∧
    (∀ p : Subnet, mask p.address.width p.length
      = (shiftedLeft? (BitVec.allOnes _) (unmasked p.address.width p.length)).getD 0) ∧
    (∀ s p, parse? s = some p →
      BitVec.usubOverflow (BitVec.ofNat 32 p.address.width) (BitVec.ofNat 32 p.length) = false ∧
        (unmasked p.address.width p.length).toNat = p.address.width - p.length) ∧
    (∀ address length a n, '/' ∉ address.toList → IpAddr.parse? address = some a →
      Numeral.read? UInt8.size length = some n →
        (∀ p, parse? (address ++ "/" ++ length) = some p ↔ p.address = a ∧ p.length = n) ∧
          ((∃ p, parse? (address ++ "/" ++ length) = some p) ↔
            BitVec.usubOverflow (BitVec.ofNat 32 a.width) (BitVec.ofNat 32 n) = false)) ∧
    ∀ p q a, covers p a = true → covers q a = true →
      ((∀ b, covers q b = true → covers p b = true) ↔ p.length ≤ q.length) := by
  refine ⟨fun p a => covers_iff, fun p a hzero => ?_, fun p a hfull => ?_, fun p => ?_,
    fun s p _ => ?_, fun address length a n hslash haddress hlength => ?_, fun p q a hp hq => ?_⟩
  · exact covers_iff.trans (contains_iff_of_length_eq_zero hzero)
  · exact covers_iff.trans (contains_iff_of_length_eq_width (hfull.trans p.address.width_eq.symm))
  · exact mask_eq_shiftedLeft? p.address.width_lt p.length_le
  · have hwidth := p.address.width_lt
    have hlength : p.length < 2 ^ 32 := Nat.lt_of_le_of_lt p.length_le hwidth
    exact ⟨(not_usubOverflow_iff hwidth hlength).mpr p.length_le,
      toNat_unmasked hwidth p.length_le⟩
  · exact ⟨fun p => parse?_append_eq_some_iff hslash haddress hlength,
      exists_parse?_append_iff hslash haddress hlength⟩
  · simp only [covers_iff] at hp hq ⊢
    exact hp.subset_iff hq

/-- Bits behind the length are no obstacle: `10.20.0.1/16` lies within `10.9.9.9/8`, but not the other
way round, and `10.20.0.1/33` is not read. -/
theorem longer_tens_within :
    let short : Subnet := ⟨.v4 0x0A090909, 8, by decide⟩
    let long : Subnet := ⟨.v4 0x0A140001, 16, by decide⟩
    parse? "10.9.9.9/8" = some short ∧ parse? "10.20.0.1/16" = some long ∧
      (∀ b, long.covers b = true → short.covers b = true) ∧
        (¬ ∀ b, short.covers b = true → long.covers b = true) ∧
          ¬ ∃ p, parse? ("10.20.0.1" ++ "/" ++ "33") = some p := by
  intro short long
  obtain ⟨-, -, -, -, -, hread, hnested⟩ := covers_leading_bits
  have hshort : short.covers (.v4 0x0A141E28) = true := by decide
  have hlong : long.covers (.v4 0x0A141E28) = true := by decide
  refine ⟨by decide, by decide, (hnested short long _ hshort hlong).mpr (by decide), ?_, ?_⟩
  · rw [hnested long short _ hlong hshort]
    decide
  · rw [(hread "10.20.0.1" "33" (.v4 0x0A140001) 33 (by decide) (by decide) (by decide)).2]
    decide

end Subnet

end DaemonConsole
