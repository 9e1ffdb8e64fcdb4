/-
Numerals that are written are read back.

A number is written with the digits of its base and without leading zeros. A reader that takes the
whole run of digits gives the number back, whatever stands behind the numeral, as long as it does
not go on with a digit.

* `Numeral.forall_mem_toDigits`: what holds of every digit holds of those of a number;
* `Numeral.ofDigits_toDigits`: the digits of a number denote it;
* `Numeral.head_toDigits_ne_zero`: a numeral starts with a zero only if it denotes zero;
* `Numeral.read?_toString`: a number below the bound is read back from its decimal numeral;
* `Reading.digits_append`, `Reading.boundedDigits_append`: a numeral is taken off the front of a
  text.
-/
import DaemonConsole.Network.Address
import Mathlib.Data.List.TakeWhile
import Mathlib.Tactic.Lemma

namespace DaemonConsole

/-! ### Runs at the front of a list -/

section Runs

variable {α : Type} {p : α → Bool} {run rest : List α}

/-- A run behind which something else stands is the whole run. -/
lemma takeWhile_run (hrun : ∀ x ∈ run, p x = true) (hrest : rest.takeWhile p = []) :
    (run ++ rest).takeWhile p = run := by
  rw [List.takeWhile_append_of_pos hrun, hrest, List.append_nil]

/-- Behind a whole run there is the rest. -/
lemma dropWhile_run (hrun : ∀ x ∈ run, p x = true) (hrest : rest.takeWhile p = []) :
    (run ++ rest).dropWhile p = rest := by
  have hjoin := List.takeWhile_append_dropWhile (p := p) (l := run ++ rest)
  rw [takeWhile_run hrun hrest] at hjoin
  exact List.append_cancel_left hjoin

end Runs

namespace Numeral

variable {base n : Nat}

/-! ### Digits -/

/-- A digit has its value. -/
lemma digitValue?_digitChar (hbase : base ≤ 16) {d : Nat} (hd : d < base) :
    digitValue? base d.digitChar = some d := by
  have hsixteen : ∀ d < 16, digitValue? 16 d.digitChar = some d := by decide
  have hvalue := hsixteen d (by omega)
  rw [digitValue?, Option.filter_eq_some_iff] at hvalue ⊢
  exact ⟨hvalue.1, by simpa using hd⟩

/-- What holds of every digit of the base holds of the digits of a number. -/
lemma forall_mem_toDigits (hone : 1 < base) {P : Char → Prop} (hP : ∀ d < base, P d.digitChar) :
    ∀ c ∈ Nat.toDigits base n, P c := by
  intro c hc
  induction n using Nat.base_induction base hone with
  | single m hm =>
      rw [Nat.toDigits_of_lt_base hm, List.mem_singleton] at hc
      exact hc ▸ hP m hm
  | digit m k hk hm ih =>
      rw [← Nat.toDigits_append_toDigits hone hm hk, Nat.toDigits_of_lt_base hk] at hc
      rcases List.mem_append.mp hc with hc | hc
      · exact ih hc
      · exact List.mem_singleton.mp hc ▸ hP k hk

/-- The digits of a number are digits of the base. -/
lemma isDigit_of_mem_toDigits (hone : 1 < base) (hbase : base ≤ 16) :
    ∀ c ∈ Nat.toDigits base n, isDigit base c = true := by
  refine forall_mem_toDigits hone fun d hd => ?_
  rw [isDigit, digitValue?_digitChar hbase hd]
  rfl

/-- The digits of a number denote it. -/
lemma ofDigits_toDigits (hone : 1 < base) (hbase : base ≤ 16) (n : Nat) :
    ofDigits base (Nat.toDigits base n) = n := by
  induction n using Nat.base_induction base hone with
  | single m hm => simp [Nat.toDigits_of_lt_base hm, ofDigits, digitValue?_digitChar hbase hm]
  | digit m k hk hm ih =>
      rw [ofDigits] at ih
      rw [← Nat.toDigits_append_toDigits hone hm hk, Nat.toDigits_of_lt_base hk, ofDigits,
        List.foldl_append, ih]
      simp [digitValue?_digitChar hbase hk]

/-- A numeral starts with a zero only if it denotes zero. -/
lemma head_toDigits_ne_zero (hone : 1 < base) (hn : 0 < n) :
    (Nat.toDigits base n).head? ≠ some '0' := by
  induction n using Nat.base_induction base hone with
  | single m hm =>
      rw [Nat.toDigits_of_lt_base hm]
      simpa using Nat.ne_of_gt hn
  | digit m k hk hm ih =>
      have hfront : (Nat.toDigits base (base * m + k)).head? = (Nat.toDigits base m).head? := by
        rw [← Nat.toDigits_append_toDigits hone hm hk, List.head?_append,
          List.head?_eq_some_head Nat.toDigits_ne_nil]
        rfl
      exact hfront ▸ ih hm

/-- A number below the bound is read back from its decimal numeral. -/
lemma read?_toString {bound : Nat} (h : n < bound) : read? bound (toString n) = some n := by
  have hall : ∀ c ∈ Nat.toDigits 10 n, isDigit 10 c = true :=
    isDigit_of_mem_toDigits (by decide) (by decide)
  have hread : readChars (Nat.toDigits 10 n) = some n := by
    have hplain : ∀ cs, Nat.toDigits 10 n ≠ '+' :: cs := fun cs hcs => by
      have hplus := hall '+' (hcs ▸ List.mem_cons_self)
      exact absurd hplus (by decide)
    rw [readChars]
    · rw [if_pos ⟨Nat.toDigits_ne_nil, List.all_eq_true.mpr hall⟩,
        ofDigits_toDigits (by decide) (by decide)]
    · exact hplain
  rw [read?, Nat.toString_eq_repr, Nat.toList_repr, hread]
  simpa using h

end Numeral

/-! ### Numerals at the front of a text -/

namespace Reading

variable {base n : Nat} {rest : List Char}

/-- A numeral is taken off the front of a text that does not go on with a digit. -/
lemma digits_append (hone : 1 < base) (hbase : base ≤ 16)
    (hrest : rest.takeWhile (Numeral.isDigit base) = []) :
    digits base (Nat.toDigits base n ++ rest) = some (n, rest) := by
  have hall : ∀ c ∈ Nat.toDigits base n, Numeral.isDigit base c = true :=
    Numeral.isDigit_of_mem_toDigits hone hbase
  rw [digits, takeWhile_run hall hrest, dropWhile_run hall hrest]
  split
  · next hnil => exact absurd hnil Nat.toDigits_ne_nil
  · rw [Numeral.ofDigits_toDigits hone hbase]

/-- So is one that denotes a number below a bound. -/
lemma boundedDigits_append {bound : Nat} (h : n < bound)
    (hrest : rest.takeWhile (Numeral.isDigit 10) = []) :
    boundedDigits bound (Nat.toDigits 10 n ++ rest) = some (n, rest) := by
  rw [boundedDigits, digits_append (by decide) (by decide) hrest]
  simpa using h

/-- Where no digit stands there is no numeral. -/
lemma digits_eq_none (hrest : rest.takeWhile (Numeral.isDigit base) = []) :
    digits base rest = none := by
  rw [digits, hrest]

end Reading

end DaemonConsole
