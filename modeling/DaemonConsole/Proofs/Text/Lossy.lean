/-
What bytes are as UTF-8 text.

Bytes are forms of characters and malformed pieces, one after the other. A malformed piece is the
longest one that starts the form of some character, or one byte that starts none, and it stands for
one U+FFFD.

* `Opens`, `Malformed`, `Lossy`: the pieces of forms, the malformed pieces, and the characters of
  any bytes;
* `form_one`, `form_two`, `form_three`, `form_four`: the characters that forms stand for;
* `Lossy.append_ascii`: bytes may be cut at an ASCII byte.
-/
import DaemonConsole.Text.Utf8
import Mathlib.Data.List.Basic
import Mathlib.Tactic.Lemma

namespace DaemonConsole.Utf8

open String (utf8EncodeChar)

/-! ### The characters of bytes -/

/-- The bytes start the form of some character. -/
def Opens (piece : List UInt8) : Prop :=
  ∃ c : Char, piece <+: utf8EncodeChar c

/-- A malformed piece with the bytes behind it. -/
structure Malformed (piece rest : List UInt8) : Prop where
  ne_nil : piece ≠ []
  /-- No character stands at the start. -/
  no_form : ∀ c : Char, ¬ utf8EncodeChar c <+: piece ++ rest
  /-- Bytes that are put together as one piece start some form. -/
  opens : 1 < piece.length → Opens piece
  /-- A longer piece starts none. -/
  longest : ∀ b ∈ rest.head?, ¬ Opens (piece ++ [b])

/-- The characters of bytes, malformed pieces replaced. -/
inductive Lossy : List UInt8 → List Char → Prop
  | nil : Lossy [] []
  | char (c : Char) {rest : List UInt8} {cs : List Char} :
      Lossy rest cs → Lossy (utf8EncodeChar c ++ rest) (c :: cs)
  | malformed {piece rest : List UInt8} {cs : List Char} :
      Malformed piece rest → Lossy rest cs → Lossy (piece ++ rest) (replacement :: cs)

/-- The start of bytes that start a form starts it too. -/
lemma Opens.of_append {piece more : List UInt8} (h : Opens (piece ++ more)) : Opens piece := by
  obtain ⟨c, hc⟩ := h
  exact ⟨c, (List.prefix_append piece more).trans hc⟩

/-- Only no bytes give no characters. -/
lemma Lossy.eq_nil {bs : List UInt8} (h : Lossy bs []) : bs = [] := by
  cases h
  rfl

/-- A character of the text other than U+FFFD brings its form. -/
lemma Lossy.form_subset {bs : List UInt8} {cs : List Char} (h : Lossy bs cs) {c : Char}
    (hc : c ∈ cs) (hne : c ≠ replacement) : utf8EncodeChar c ⊆ bs := by
  induction h with
  | nil => exact absurd hc List.not_mem_nil
  | @char d rest cs _ ih =>
      rcases List.mem_cons.mp hc with rfl | hc
      · exact List.subset_append_left _ _
      · exact List.Subset.trans (ih hc) (List.subset_append_right _ _)
  | malformed _ _ ih =>
      rcases List.mem_cons.mp hc with rfl | hc
      · exact absurd rfl hne
      · exact List.Subset.trans (ih hc) (List.subset_append_right _ _)

/-! ### Forms of one to four bytes

A form is known from the bits in its bytes. The bounds say that the bits are not written longer than
they need to be and that they are no surrogate. -/

/-- The bits of a character that there is. -/
lemma val_ofNat {v : Nat} (h : v < 0xD800 ∨ 0xDFFF < v ∧ v < 0x110000) :
    (Char.ofNat v).val.toNat = v := by
  have hvalid : v.isValidChar := h
  rw [Char.ofNat, dif_pos hvalid]
  rfl

variable {a b c d : UInt8}

lemma form_one (ha : a.toNat < 0x80) : utf8EncodeChar (Char.ofNat a.toNat) = [a] := by
  simp only [utf8EncodeChar, val_ofNat (v := a.toNat) (by omega), UInt8.ofNat_toNat]
  rw [if_pos (by omega)]

lemma form_two {v : Nat} (hv : v = (a.toNat - 0xC0) * 64 + (b.toNat - 0x80))
    (ha : 0xC2 ≤ a.toNat ∧ a.toNat < 0xE0) (hb : 0x80 ≤ b.toNat ∧ b.toNat ≤ 0xBF) :
    utf8EncodeChar (Char.ofNat v) = [a, b] := by
  have hfirst : v / 64 % 32 + 192 = a.toNat := by omega
  have hsecond : v % 64 + 128 = b.toNat := by omega
  simp only [utf8EncodeChar, val_ofNat (v := v) (by omega), hfirst, hsecond, UInt8.ofNat_toNat]
  rw [if_neg (by omega), if_pos (by omega)]

lemma form_three {v : Nat}
    (hv : v = ((a.toNat - 0xE0) * 64 + (b.toNat - 0x80)) * 64 + (c.toNat - 0x80))
    (ha : 0xE0 ≤ a.toNat ∧ a.toNat < 0xF0) (hb : 0x80 ≤ b.toNat ∧ b.toNat ≤ 0xBF)
    (hc : 0x80 ≤ c.toNat ∧ c.toNat ≤ 0xBF) (hlong : 0x7FF < v)
    (hvalid : v < 0xD800 ∨ 0xDFFF < v) :
    utf8EncodeChar (Char.ofNat v) = [a, b, c] := by
  have hfirst : v / 4096 % 16 + 224 = a.toNat := by omega
  have hsecond : v / 64 % 64 + 128 = b.toNat := by omega
  have hthird : v % 64 + 128 = c.toNat := by omega
  simp only [utf8EncodeChar, val_ofNat (v := v) (by omega), hfirst, hsecond, hthird,
    UInt8.ofNat_toNat]
  rw [if_neg (by omega), if_neg (by omega), if_pos (by omega)]

lemma form_four {v : Nat}
    (hv : v = (((a.toNat - 0xF0) * 64 + (b.toNat - 0x80)) * 64 + (c.toNat - 0x80)) * 64
      + (d.toNat - 0x80))
    (ha : 0xF0 ≤ a.toNat ∧ a.toNat < 0xF5) (hb : 0x80 ≤ b.toNat ∧ b.toNat ≤ 0xBF)
    (hc : 0x80 ≤ c.toNat ∧ c.toNat ≤ 0xBF) (hd : 0x80 ≤ d.toNat ∧ d.toNat ≤ 0xBF)
    (hlong : 0xFFFF < v) (hvalid : v < 0x110000) :
    utf8EncodeChar (Char.ofNat v) = [a, b, c, d] := by
  have hfirst : v / 262144 % 8 + 240 = a.toNat := by omega
  have hsecond : v / 4096 % 64 + 128 = b.toNat := by omega
  have hthird : v / 64 % 64 + 128 = c.toNat := by omega
  have hfourth : v % 64 + 128 = d.toNat := by omega
  simp only [utf8EncodeChar, val_ofNat (v := v) (by omega), hfirst, hsecond, hthird, hfourth,
    UInt8.ofNat_toNat]
  rw [if_neg (by omega), if_neg (by omega), if_neg (by omega)]

/-- The form of a character that is not ASCII has no ASCII byte. -/
lemma form_above_ascii {x : Char} (hx : 0x7F < x.val.toNat) :
    ∀ b ∈ utf8EncodeChar x, 0x80 ≤ b.toNat := by
  have hwide {n : Nat} (hn : 0x80 ≤ n ∧ n < 0x100) : 0x80 ≤ (UInt8.ofNat n).toNat := by
    rw [UInt8.toNat_ofNat']
    omega
  rw [utf8EncodeChar, if_neg (by omega)]
  split_ifs
  all_goals
    simp only [List.mem_cons, forall_eq_or_imp, List.not_mem_nil, false_imp_iff, implies_true,
      and_true]
    refine ⟨hwide (by omega), ?_⟩
  · exact hwide (by omega)
  · exact ⟨hwide (by omega), hwide (by omega)⟩
  · exact ⟨hwide (by omega), hwide (by omega), hwide (by omega)⟩

/-- The form of a character that has an ASCII byte is this byte. -/
lemma form_of_ascii_mem {x : Char} (ha : a.toNat < 0x80) (hmem : a ∈ utf8EncodeChar x) :
    utf8EncodeChar x = [a] := by
  have hx : x.val.toNat ≤ 0x7F := by
    by_contra hwide
    have habove := form_above_ascii (by omega) a hmem
    omega
  rw [utf8EncodeChar, if_pos hx] at hmem ⊢
  rw [List.mem_singleton.mp hmem]

/-! ### ASCII bytes -/

variable {piece rest : List UInt8}

/-- A malformed piece ends before an ASCII byte. -/
lemma Malformed.append_ascii (h : Malformed piece rest) (ha : a.toNat < 0x80)
    (after : List UInt8) : Malformed piece (rest ++ a :: after) where
  ne_nil := h.ne_nil
  opens := h.opens
  no_form x hx := by
    rw [← List.append_assoc] at hx
    obtain ⟨more, hmore⟩ := hx
    rcases List.append_eq_append_iff.mp hmore with ⟨gap, hjoin, -⟩ | ⟨gap, hform, hafter⟩
    · exact h.no_form x ⟨gap, hjoin.symm⟩
    · cases gap with
      | nil => exact h.no_form x ⟨[], by rw [hform, List.append_nil, List.append_nil]⟩
      | cons b gap =>
          -- a form that holds the ASCII byte has nothing in front of it
          obtain rfl := (List.cons.inj hafter).1
          have halone := form_of_ascii_mem ha (x := x) (by rw [hform]; simp)
          have hlength := congrArg List.length (hform.symm.trans halone)
          have hpiece := List.length_pos_of_ne_nil h.ne_nil
          simp only [List.length_append, List.length_cons, List.length_nil] at hlength
          omega
  longest b hb hopens := by
    cases rest with
    | cons d rest => exact h.longest b hb hopens
    | nil =>
        obtain rfl : a = b := by simpa using hb
        obtain ⟨x, hx⟩ := hopens
        have halone := form_of_ascii_mem ha (x := x) (hx.subset (by simp))
        have hlength := hx.length_le
        have hpiece := List.length_pos_of_ne_nil h.ne_nil
        rw [halone, List.length_append, List.length_singleton] at hlength
        omega

/-- Bytes may be cut in front of an ASCII byte and behind it. -/
lemma Lossy.append_ascii {front after : List UInt8} {cs ds : List Char} (hfront : Lossy front cs)
    (ha : a.toNat < 0x80) (hafter : Lossy after ds) :
    Lossy (front ++ a :: after) (cs ++ Char.ofNat a.toNat :: ds) := by
  induction hfront with
  | nil =>
      have hchar := Lossy.char (Char.ofNat a.toNat) hafter
      rwa [form_one ha] at hchar
  | char x _ ih =>
      rw [List.append_assoc]
      exact .char x ih
  | malformed hbad _ ih =>
      rw [List.append_assoc]
      exact .malformed (hbad.append_ascii ha after) ih

end DaemonConsole.Utf8
