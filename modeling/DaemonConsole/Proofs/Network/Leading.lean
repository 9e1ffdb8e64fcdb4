/-
Subnets by the leading bits of addresses.

An address lies in a subnet if it is of its family and starts with the same bits, as many as the
length of the subnet says. Masking both addresses is a way to find out.

* `IpAddr.bit`: the bits of an address, the most significant first;
* `Subnet.Contains`: membership, bit by bit;
* `Subnet.covers_iff`: the masks decide membership;
* `IpAddr.isLoopback_iff`: the addresses of the host itself are a subnet and one more address;
* `Subnet.SameNetwork`: subnets that contain the same addresses; `Subnet.sameNetwork_iff` tells them
  by family, length and leading bits;
* `Subnet.Bare`: the one subnet of a network whose address ends with its leading bits.
-/
import DaemonConsole.Network.Subnet
import Mathlib.Algebra.Group.Nat.Defs
import Mathlib.Tactic.Lemma

namespace DaemonConsole

/-- A bit of an address, counted from the most significant one; none is set behind the last. -/
def IpAddr.bit : IpAddr → Nat → Bool
  | v4 bits, i => bits.getMsbD i
  | v6 bits, i => bits.getMsbD i

/-! ### Masks -/

section Mask

variable {width length : Nat}

/-- The ones of a mask are its leading bits. -/
lemma Subnet.getMsbD_mask (h : length ≤ width) (i : Nat) :
    (Subnet.mask width length).getMsbD i = decide (i < length) := by
  rw [mask, BitVec.getMsbD_shiftLeft, BitVec.getMsbD_allOnes]
  have hplace : i + (width - length) < width ↔ i < length := by omega
  exact decide_eq_decide.mpr hplace

/-- Two words are equal under a mask exactly if their leading bits are. -/
lemma Subnet.and_mask_eq_iff (h : length ≤ width) (x y : BitVec width) :
    x &&& mask width length = y &&& mask width length
      ↔ ∀ i < length, x.getMsbD i = y.getMsbD i := by
  have hbit : ∀ (z : BitVec width) i,
      (z &&& mask width length).getMsbD i = (z.getMsbD i && decide (i < length)) := by
    intro z i
    rw [BitVec.getMsbD_and, getMsbD_mask h]
  constructor
  · intro heq i hi
    have hmasked := congrArg (BitVec.getMsbD · i) heq
    simpa [hbit, hi] using hmasked
  · intro hall
    refine BitVec.eq_of_getMsbD_eq fun i _ => ?_
    rw [hbit, hbit]
    by_cases hi : i < length
    · rw [hall i hi]
    · simp [hi]

/-- Leading bits are equal exactly if the words are without their other bits. -/
lemma Subnet.leading_eq_iff (h : length ≤ width) (x y : BitVec width) :
    (∀ i < length, x.getMsbD i = y.getMsbD i)
      ↔ x.toNat / 2 ^ (width - length) = y.toNat / 2 ^ (width - length) := by
  have hword : x >>> (width - length) = y >>> (width - length)
      ↔ x.toNat / 2 ^ (width - length) = y.toNat / 2 ^ (width - length) := by
    rw [← BitVec.toNat_inj, BitVec.toNat_ushiftRight, BitVec.toNat_ushiftRight,
      Nat.shiftRight_eq_div_pow, Nat.shiftRight_eq_div_pow]
  rw [← hword]
  constructor
  · intro hall
    refine BitVec.eq_of_getMsbD_eq fun i hi => ?_
    rw [BitVec.getMsbD_ushiftRight, BitVec.getMsbD_ushiftRight]
    by_cases hshift : i < width - length
    · simp [hshift]
    · rw [hall (i - (width - length)) (by omega)]
  · intro heq i hi
    have hbit := congrArg (BitVec.getMsbD · (i + (width - length))) heq
    have hplace : i + (width - length) < width := by omega
    have hshift : ¬ i + (width - length) < width - length := by omega
    simpa [BitVec.getMsbD_ushiftRight, hplace, hshift] using hbit

end Mask

/-! ### Membership -/

namespace Subnet

/-- An address lies in a subnet if it is of its family and the leading bits that count are the
subnet's. -/
def Contains (p : Subnet) (target : IpAddr) : Prop :=
  p.address.isV4 = target.isV4 ∧ ∀ i < p.length, p.address.bit i = target.bit i

/-- The masks decide membership. -/
lemma covers_iff {p : Subnet} {target : IpAddr} : p.covers target = true ↔ p.Contains target := by
  obtain ⟨address, length, hlength⟩ := p
  cases address with
  | v4 net =>
      cases target with
      | v4 ip =>
          have hmask : net &&& mask 32 length = ip &&& mask 32 length ↔ _ :=
            and_mask_eq_iff hlength net ip
          exact beq_iff_eq.trans (hmask.trans (and_iff_right rfl).symm)
      | v6 ip => simp [covers, Contains, IpAddr.isV4]
  | v6 net =>
      cases target with
      | v4 ip => simp [covers, Contains, IpAddr.isV4]
      | v6 ip =>
          have hmask : net &&& mask 128 length = ip &&& mask 128 length ↔ _ :=
            and_mask_eq_iff hlength net ip
          exact beq_iff_eq.trans (hmask.trans (and_iff_right rfl).symm)

/-- The subnet of 32-bit addresses that reach the host itself. -/
def ownHost : Subnet :=
  ⟨.v4 0x7F000000, 8, by decide⟩

end Subnet

/-- The addresses of the host itself are those of `127.0.0.0/8`, and `::1`. -/
lemma IpAddr.isLoopback_iff {a : IpAddr} :
    a.isLoopback = true ↔ Subnet.ownHost.Contains a ∨ a = .v6 1 := by
  cases a with
  | v4 bits =>
      have hbits : Subnet.ownHost.Contains (.v4 bits)
          ↔ (0x7F000000#32).toNat / 2 ^ (32 - 8) = bits.toNat / 2 ^ (32 - 8) :=
        (and_iff_right rfl).trans (Subnet.leading_eq_iff (by decide) _ bits)
      have hnet : (0x7F000000#32).toNat / 2 ^ (32 - 8) = 127 := by decide
      rw [hbits, hnet, isLoopback, beq_iff_eq, eq_comm]
      simp
  | v6 bits =>
      have hfamily : ¬ Subnet.ownHost.Contains (.v6 bits) := fun h => Bool.noConfusion h.1
      rw [isLoopback, beq_iff_eq, or_iff_right hfamily, IpAddr.v6.injEq]
      exact BitVec.toNat_inj (y := 1)

/-! ### Networks -/

/-- A word that agrees with another up to a bit and differs in it. -/
lemma Subnet.exists_first_difference {width k : Nat} (h : k < width) (x : BitVec width) :
    ∃ y : BitVec width, (∀ i < k, y.getMsbD i = x.getMsbD i) ∧ y.getMsbD k ≠ x.getMsbD k := by
  have hbit : ∀ i < width, (x ^^^ ~~~mask width k).getMsbD i
      = (x.getMsbD i ^^ !decide (i < k)) := by
    intro i hi
    rw [BitVec.getMsbD_xor, BitVec.getMsbD_not, getMsbD_mask (Nat.le_of_lt h)]
    simp [hi]
  refine ⟨x ^^^ ~~~mask width k, fun i hi => ?_, ?_⟩
  · rw [hbit i (Nat.lt_trans hi h)]
    simp [hi]
  · rw [hbit k h]
    simp

namespace IpAddr

variable {a b : IpAddr} {k : Nat}

/-- So it is with addresses. -/
lemma exists_first_difference (h : k < a.width) :
    ∃ b : IpAddr, b.isV4 = a.isV4 ∧ (∀ i < k, b.bit i = a.bit i) ∧ b.bit k ≠ a.bit k := by
  cases a with
  | v4 bits =>
      obtain ⟨y, hbefore, hdiffer⟩ := Subnet.exists_first_difference h bits
      exact ⟨.v4 y, rfl, hbefore, hdiffer⟩
  | v6 bits =>
      obtain ⟨y, hbefore, hdiffer⟩ := Subnet.exists_first_difference h bits
      exact ⟨.v6 y, rfl, hbefore, hdiffer⟩

/-- Addresses of one family are told apart by their bits. -/
lemma eq_of_bit_eq (hfamily : a.isV4 = b.isV4) (hbits : ∀ i, a.bit i = b.bit i) : a = b := by
  cases a with
  | v4 x =>
      cases b with
      | v4 y => exact congrArg v4 (BitVec.eq_of_getMsbD_eq fun i _ => hbits i)
      | v6 y => cases hfamily
  | v6 x =>
      cases b with
      | v4 y => cases hfamily
      | v6 y => exact congrArg v6 (BitVec.eq_of_getMsbD_eq fun i _ => hbits i)

end IpAddr

namespace Subnet

variable {p q : Subnet}

/-- Two subnets are of one network if they contain the same addresses. -/
def SameNetwork (p q : Subnet) : Prop :=
  ∀ a, p.Contains a ↔ q.Contains a

lemma contains_address (p : Subnet) : p.Contains p.address :=
  ⟨rfl, fun _ _ => rfl⟩

/-- A subnet within another one is at least as long. -/
lemma length_le_of_subset (h : ∀ a, q.Contains a → p.Contains a) : p.length ≤ q.length := by
  refine Nat.le_of_not_lt fun hlonger => ?_
  have hfits : q.length < p.address.width := by
    have := p.length_le
    omega
  obtain ⟨a, hfamily, hbefore, hdiffer⟩ := IpAddr.exists_first_difference hfits
  obtain ⟨hsame, hleading⟩ := h q.address q.contains_address
  have ha : q.Contains a := by
    refine ⟨hsame.symm.trans hfamily.symm, fun i hi => ?_⟩
    rw [hbefore i hi, hleading i (Nat.lt_trans hi hlonger)]
  exact hdiffer ((h a ha).2 q.length hlonger).symm

/-- A subnet of a network is not longer than another one. -/
lemma SameNetwork.length_le (h : p.SameNetwork q) : p.length ≤ q.length :=
  length_le_of_subset fun a => (h a).mpr

/-- Subnets of one network have the same family, length and leading bits. -/
lemma sameNetwork_iff : p.SameNetwork q ↔
    p.address.isV4 = q.address.isV4 ∧ p.length = q.length ∧
      ∀ i < p.length, p.address.bit i = q.address.bit i := by
  constructor
  · intro h
    have hq := (h q.address).mpr q.contains_address
    exact ⟨hq.1, Nat.le_antisymm h.length_le (SameNetwork.length_le fun a => (h a).symm), hq.2⟩
  · rintro ⟨hfamily, hlength, hbits⟩ a
    rw [Contains, Contains, hfamily, ← hlength]
    refine and_congr_right fun _ => forall_congr' fun i => forall_congr' fun hi => ?_
    rw [hbits i hi]

/-- Subnets of one network are the same exactly if their other bits agree as well. -/
lemma SameNetwork.eq_iff (h : p.SameNetwork q) :
    p = q ↔ ∀ i, p.length ≤ i → p.address.bit i = q.address.bit i := by
  obtain ⟨hfamily, hlength, hleading⟩ := sameNetwork_iff.mp h
  constructor
  · rintro rfl _ _
    rfl
  · intro hhost
    have haddress : p.address = q.address := by
      refine IpAddr.eq_of_bit_eq hfamily fun i => ?_
      rcases Nat.lt_or_ge i p.length with hi | hi
      · exact hleading i hi
      · exact hhost i hi
    obtain ⟨a, m, hm⟩ := p
    obtain ⟨b, n, hn⟩ := q
    cases haddress
    cases hlength
    rfl

/-- No bit of the address is set behind the length. -/
def Bare (p : Subnet) : Prop :=
  ∀ i, p.length ≤ i → p.address.bit i = false

/-- A network has one subnet without bits behind its length. -/
lemma SameNetwork.eq_of_bare (h : p.SameNetwork q) (hp : p.Bare) (hq : q.Bare) : p = q := by
  obtain ⟨-, hlength, -⟩ := sameNetwork_iff.mp h
  exact h.eq_iff.mpr fun i hi => (hp i hi).trans (hq i (hlength ▸ hi)).symm

end Subnet

end DaemonConsole
