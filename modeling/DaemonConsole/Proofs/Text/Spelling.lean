/-
Texts that spell a number.

A number is typed as an optional plus sign and a run of decimal digits. Leading zeros are allowed, so
one number is typed in many ways, and a run of digits may be longer than any number type it is read
for.

* `Numeral.Spells`: the texts of a number;
* `Numeral.readChars_eq_some_iff`, `Numeral.read?_eq_some_iff`: these texts are read, and no others;
* `Numeral.Spells.unique`: a text is that of one number at most.
-/
import DaemonConsole.Text.Numeral
import Mathlib.Data.List.Induction
import Mathlib.Data.Nat.Digits.Defs
import Mathlib.Tactic.Lemma

namespace DaemonConsole.Numeral

/-- A text spells a number if it is a run of ASCII digits, at least one, behind an optional plus sign,
and the number is their value, the first digit being the most significant one. -/
def Spells (s : String) (n : Nat) : Prop :=
  ∃ sign digits, s.toList = sign ++ digits ∧ (sign = [] ∨ sign = ['+']) ∧ digits ≠ [] ∧
    (∀ c ∈ digits, c.isDigit = true) ∧
      n = Nat.ofDigits 10 (digits.map fun c => c.toNat - '0'.toNat).reverse

/-! ### Digits -/

/-- An ASCII digit lies between the zero and the nine. -/
lemma le_of_isDigit {c : Char} (h : c.isDigit = true) : '0' ≤ c ∧ c ≤ '9' := by
  simpa [Char.isDigit, Char.le_def] using h

/-- The value of an ASCII digit is its distance from the zero. -/
lemma digitValue?_eq {c : Char} (h : c.isDigit = true) :
    digitValue? 10 c = some (c.toNat - '0'.toNat) := by
  obtain ⟨hlow, hhigh⟩ := le_of_isDigit h
  have hbound : c.toNat ≤ '9'.toNat := UInt32.le_iff_toNat_le.mp hhigh
  have hzero : '0'.toNat = 48 := rfl
  have hnine : '9'.toNat = 57 := rfl
  rw [digitValue?, if_pos ⟨hlow, hhigh⟩, Option.filter_eq_some_iff]
  exact ⟨rfl, decide_eq_true (by omega)⟩

/-- The decimal digits are the ASCII digits. -/
lemma isDigit_iff {c : Char} : isDigit 10 c = true ↔ c.isDigit = true := by
  constructor
  · intro h
    obtain ⟨value, hvalue⟩ := Option.isSome_iff_exists.mp h
    obtain ⟨hletter, hlt⟩ := Option.filter_eq_some_iff.mp hvalue
    have hlt := of_decide_eq_true hlt
    split at hletter
    · next hrange => simpa [Char.isDigit, Char.le_def] using hrange
    · split at hletter
      · next hrange =>
          cases hletter
          have hlow : 'a'.toNat ≤ c.toNat := UInt32.le_iff_toNat_le.mp hrange.1
          have ha : 'a'.toNat = 97 := rfl
          omega
      · split at hletter
        · next hrange =>
            cases hletter
            have hlow : 'A'.toNat ≤ c.toNat := UInt32.le_iff_toNat_le.mp hrange.1
            have ha : 'A'.toNat = 65 := rfl
            omega
        · cases hletter
  · intro h
    rw [isDigit, digitValue?_eq h]
    rfl

/-- The value of a run of digits. -/
lemma ofDigits_eq {digits : List Char} (h : ∀ c ∈ digits, c.isDigit = true) :
    ofDigits 10 digits = Nat.ofDigits 10 (digits.map fun c => c.toNat - '0'.toNat).reverse := by
  induction digits using List.reverseRecOn with
  | nil => rfl
  | append_singleton digits c ih =>
      obtain ⟨hdigits, hc⟩ := List.forall_mem_append.mp h
      have hvalue := digitValue?_eq (hc c List.mem_cons_self)
      have hfront := ih hdigits
      rw [ofDigits] at hfront
      rw [ofDigits, List.foldl_append, hfront, List.map_append, List.reverse_append]
      simp [hvalue, Nat.ofDigits_cons, Nat.add_comm]

/-! ### Numerals -/

variable {s : String} {n : Nat}

/-- A run of digits, at least one, is read as its value. -/
lemma run_eq_some_iff {digits : List Char} :
    (if digits ≠ [] ∧ digits.all (isDigit 10) then some (ofDigits 10 digits) else none) = some n ↔
      digits ≠ [] ∧ (∀ c ∈ digits, c.isDigit = true) ∧
        n = Nat.ofDigits 10 (digits.map fun c => c.toNat - '0'.toNat).reverse := by
  rw [Option.ite_none_right_eq_some, and_assoc, List.all_eq_true]
  refine and_congr_right fun _ => ?_
  constructor
  · rintro ⟨hall, hvalue⟩
    have hdigits : ∀ c ∈ digits, c.isDigit = true := fun c hc => isDigit_iff.mp (hall c hc)
    exact ⟨hdigits, by rw [← ofDigits_eq hdigits, Option.some.inj hvalue]⟩
  · rintro ⟨hdigits, hvalue⟩
    exact ⟨fun c hc => isDigit_iff.mpr (hdigits c hc), by rw [ofDigits_eq hdigits, hvalue]⟩

/-- The texts of a number are those that are read as it. -/
lemma readChars_eq_some_iff : readChars s.toList = some n ↔ Spells s n := by
  constructor
  · intro h
    rw [readChars.eq_def] at h
    split at h
    · next digits htext => exact ⟨['+'], digits, htext, .inr rfl, run_eq_some_iff.mp h⟩
    · exact ⟨[], s.toList, rfl, .inl rfl, run_eq_some_iff.mp h⟩
  · rintro ⟨sign, digits, htext, rfl | rfl, hrun⟩
    · rw [htext, List.nil_append, readChars]
      · exact run_eq_some_iff.mpr hrun
      · rintro cs rfl
        -- a plus sign is no digit
        exact absurd (hrun.2.1 '+' List.mem_cons_self) (by decide)
    · rw [htext, List.singleton_append, readChars]
      exact run_eq_some_iff.mpr hrun

/-- Below a bound they are read as well. -/
lemma read?_eq_some_iff {bound : Nat} : read? bound s = some n ↔ Spells s n ∧ n < bound := by
  rw [read?, Option.filter_eq_some_iff, readChars_eq_some_iff, decide_eq_true_iff]

/-- A text is that of one number at most. -/
lemma Spells.unique {m : Nat} (hm : Spells s m) (hn : Spells s n) : m = n :=
  Option.some.inj ((readChars_eq_some_iff.mpr hm).symm.trans (readChars_eq_some_iff.mpr hn))

end DaemonConsole.Numeral
