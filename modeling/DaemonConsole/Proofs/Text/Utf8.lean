/-
The decoder reads forms and malformed pieces.

Inside a form the decoder knows which bytes finish it, and it gives nothing before they are there.
So what it has read of a form starts some form, and a byte that does not fit starts none with it:
then the piece is malformed, and the byte is read anew.

* `Decoder.Finishes`, `Decoder.Behind`: what the decoder awaits inside a form, and which bytes it
  has read of it;
* `Decoder.read_form`: the form of a character is read as this character;
* `step_cases`, `lossy_run`: what a step does with the piece read so far, and what a run gives;
* `lossy_iff`: the characters of any bytes are what `decode` gives.
-/
import DaemonConsole.Proofs.Text.Lossy

namespace DaemonConsole.Utf8

open String (utf8EncodeChar)

variable {a : UInt8}

/-! ### A byte between characters -/

/-- The first bytes of forms of each length, and the bytes that start none. -/
lemma lead_cases (a : UInt8) :
    a.toNat < 0x80 ∨ (0x80 ≤ a.toNat ∧ a.toNat < 0xC2 ∨ 0xF4 < a.toNat) ∨
      (0xC2 ≤ a.toNat ∧ a.toNat < 0xE0) ∨ (0xE0 ≤ a.toNat ∧ a.toNat < 0xF0) ∨
      (0xF0 ≤ a.toNat ∧ a.toNat < 0xF5) := by
  omega

lemma start_ascii (ha : a.toNat < 0x80) : start a = ([Char.ofNat a.toNat], .ground) :=
  if_pos (UInt8.lt_iff_toNat_lt.mpr ha)

lemma start_stray (ha : 0x80 ≤ a.toNat ∧ a.toNat < 0xC2 ∨ 0xF4 < a.toNat) :
    start a = ([replacement], .ground) := by
  simp only [start, UInt8.lt_iff_toNat_lt, ← UInt8.toNat_inj, UInt8.reduceToNat]
  rw [if_neg (by omega)]
  rcases ha with ha | ha
  · rw [if_pos ha.2]
  · rw [if_neg (by omega), if_neg (by omega), if_neg (by omega), if_neg (by omega),
      if_neg (by omega), if_neg (by omega), if_neg (by omega), if_neg (by omega)]

lemma start_two (ha : 0xC2 ≤ a.toNat ∧ a.toNat < 0xE0) :
    start a = ([], .inside 0x80 0xBF 0 (a.toNat - 0xC0)) := by
  simp only [start, UInt8.lt_iff_toNat_lt, UInt8.reduceToNat]
  rw [if_neg (by omega), if_neg (by omega), if_pos (by omega)]

/-- Behind the first of three bytes, the second one fits if the bits so far are neither those of a
shorter form nor those of a surrogate. -/
lemma start_three (ha : 0xE0 ≤ a.toNat ∧ a.toNat < 0xF0) :
    ∃ low high, start a = ([], .inside low high 1 (a.toNat - 0xE0)) ∧ low ≤ high ∧
      ∀ b : UInt8, low ≤ b ∧ b ≤ high ↔
        (0x80 ≤ b.toNat ∧ b.toNat ≤ 0xBF) ∧
          0x20 ≤ (a.toNat - 0xE0) * 64 + (b.toNat - 0x80) ∧
          ((a.toNat - 0xE0) * 64 + (b.toNat - 0x80) < 0x360 ∨
            0x37F < (a.toNat - 0xE0) * 64 + (b.toNat - 0x80)) := by
  simp only [UInt8.le_iff_toNat_le]
  by_cases hlow : a = 0xE0
  · subst hlow
    refine ⟨0xA0, 0xBF, rfl, by decide, fun b => ?_⟩
    simp only [UInt8.reduceToNat]
    omega
  by_cases hhigh : a = 0xED
  · subst hhigh
    refine ⟨0x80, 0x9F, rfl, by decide, fun b => ?_⟩
    simp only [UInt8.reduceToNat]
    omega
  have hne : a.toNat ≠ 0xE0 ∧ a.toNat ≠ 0xED :=
    ⟨fun h => hlow (UInt8.toNat_inj.mp h), fun h => hhigh (UInt8.toNat_inj.mp h)⟩
  refine ⟨0x80, 0xBF, ?_, by decide, fun b => ?_⟩
  · simp only [start, UInt8.lt_iff_toNat_lt, UInt8.reduceToNat]
    rw [if_neg (by omega), if_neg (by omega), if_neg (by omega), if_neg hlow, if_neg hhigh,
      if_pos (by omega)]
  · simp only [UInt8.reduceToNat]
    omega

/-- Behind the first of four bytes, the second one fits if the bits so far are neither those of a
shorter form nor beyond the last character. -/
lemma start_four (ha : 0xF0 ≤ a.toNat ∧ a.toNat < 0xF5) :
    ∃ low high, start a = ([], .inside low high 2 (a.toNat - 0xF0)) ∧ low ≤ high ∧
      ∀ b : UInt8, low ≤ b ∧ b ≤ high ↔
        (0x80 ≤ b.toNat ∧ b.toNat ≤ 0xBF) ∧
          0x10 ≤ (a.toNat - 0xF0) * 64 + (b.toNat - 0x80) ∧
          (a.toNat - 0xF0) * 64 + (b.toNat - 0x80) < 0x110 := by
  simp only [UInt8.le_iff_toNat_le]
  by_cases hlow : a = 0xF0
  · subst hlow
    refine ⟨0x90, 0xBF, rfl, by decide, fun b => ?_⟩
    simp only [UInt8.reduceToNat]
    omega
  by_cases hhigh : a = 0xF4
  · subst hhigh
    refine ⟨0x80, 0x8F, rfl, by decide, fun b => ?_⟩
    simp only [UInt8.reduceToNat]
    omega
  have hne : a.toNat ≠ 0xF0 ∧ a.toNat ≠ 0xF4 :=
    ⟨fun h => hlow (UInt8.toNat_inj.mp h), fun h => hhigh (UInt8.toNat_inj.mp h)⟩
  refine ⟨0x80, 0xBF, ?_, by decide, fun b => ?_⟩
  · simp only [start, UInt8.lt_iff_toNat_lt, ← UInt8.toNat_inj, UInt8.reduceToNat]
    rw [if_neg (by omega), if_neg (by omega), if_neg (by omega), if_neg (by omega),
      if_neg (by omega), if_neg (by omega), if_neg (by omega), if_pos (by omega)]
  · simp only [UInt8.reduceToNat]
    omega

/-- A byte between characters is a character, or malformed, or it starts a form. -/
lemma start_cases (a : UInt8) :
    (∃ x, utf8EncodeChar x = [a] ∧ start a = ([x], .ground)) ∨
      start a = ([replacement], .ground) ∨ ∃ e, start a = ([], e) := by
  rcases lead_cases a with ha | ha | ha | ha | ha
  · exact .inl ⟨_, form_one ha, start_ascii ha⟩
  · exact .inr (.inl (start_stray ha))
  · exact .inr (.inr ⟨_, start_two ha⟩)
  · obtain ⟨low, high, hstart, -⟩ := start_three ha
    exact .inr (.inr ⟨_, hstart⟩)
  · obtain ⟨low, high, hstart, -⟩ := start_four ha
    exact .inr (.inr ⟨_, hstart⟩)

/-! ### Inside a form -/

namespace Decoder

/-- The bytes finish the form that the decoder is inside of, with the character it stands for. -/
def Finishes : Decoder → List UInt8 → Char → Prop
  | .inside low high 0 scalar, [b], c =>
    low ≤ b ∧ b ≤ high ∧ c = Char.ofNat (scalar * 64 + (b.toNat - 0x80))
  | .inside low high (missing + 1) scalar, b :: tail, c =>
    low ≤ b ∧ b ≤ high ∧
      (inside 0x80 0xBF missing (scalar * 64 + (b.toNat - 0x80))).Finishes tail c
  | _, _, _ => False

/-- The decoder is inside a form and has read a piece of it. -/
structure Behind (e : Decoder) (piece : List UInt8) : Prop where
  goes_on : ∃ tail c, e.Finishes tail c
  form_of_finishes : ∀ tail c, e.Finishes tail c → piece ++ tail = utf8EncodeChar c

/-- A form can be finished as long as some byte may come next. -/
lemma exists_finishes {low high : UInt8} (h : low ≤ high) (missing scalar : Nat) :
    ∃ tail c, (inside low high missing scalar).Finishes tail c := by
  induction missing generalizing low high scalar with
  | zero => exact ⟨[low], _, UInt8.le_refl low, h, rfl⟩
  | succ missing ih =>
      obtain ⟨tail, c, htail⟩ := ih (show (0x80 : UInt8) ≤ 0xBF by decide) _
      exact ⟨low :: tail, c, UInt8.le_refl low, h, htail⟩

section Finishes

variable {low high : UInt8} {missing scalar : Nat} {tail : List UInt8} {x : Char}

/-- The last byte of a form. -/
lemma finishes_zero :
    (inside low high 0 scalar).Finishes tail x ↔
      ∃ b, tail = [b] ∧ low ≤ b ∧ b ≤ high ∧ x = Char.ofNat (scalar * 64 + (b.toNat - 0x80)) := by
  match tail with
  | [] => simp [Finishes]
  | [b] => simp [Finishes]
  | b :: c :: rest => simp [Finishes]

/-- A byte of a form that more bytes follow. -/
lemma finishes_succ :
    (inside low high (missing + 1) scalar).Finishes tail x ↔
      ∃ b rest, tail = b :: rest ∧ low ≤ b ∧ b ≤ high ∧
        (inside 0x80 0xBF missing (scalar * 64 + (b.toNat - 0x80))).Finishes rest x := by
  match tail with
  | [] => simp [Finishes]
  | b :: rest => simp [Finishes]

end Finishes

/-- A byte that starts a form leaves the decoder inside of it. -/
lemma behind_start {e : Decoder} (h : start a = ([], e)) : e.Behind [a] := by
  rcases lead_cases a with ha | ha | ha | ha | ha
  · simp [start_ascii ha] at h
  · simp [start_stray ha] at h
  · obtain rfl : _ = e := congrArg Prod.snd ((start_two ha).symm.trans h)
    refine ⟨exists_finishes (by decide) _ _, fun tail x hx => ?_⟩
    obtain ⟨b, rfl, hb, hb', hchar⟩ := finishes_zero.mp hx
    simp only [UInt8.le_iff_toNat_le, UInt8.reduceToNat] at hb hb'
    rw [hchar, form_two rfl ha ⟨hb, hb'⟩]
    rfl
  · obtain ⟨low, high, hstart, hle, hfits⟩ := start_three ha
    obtain rfl : _ = e := congrArg Prod.snd (hstart.symm.trans h)
    refine ⟨exists_finishes hle _ _, fun tail x hx => ?_⟩
    obtain ⟨b, _, rfl, hb, hb', hx⟩ := finishes_succ.mp hx
    obtain ⟨c, rfl, hc, hc', hchar⟩ := finishes_zero.mp hx
    obtain ⟨hbTail, hlong, hvalid⟩ := (hfits b).mp ⟨hb, hb'⟩
    simp only [UInt8.le_iff_toNat_le, UInt8.reduceToNat] at hc hc'
    rw [hchar, form_three rfl ha hbTail ⟨hc, hc'⟩ (by omega) (by omega)]
    rfl
  · obtain ⟨low, high, hstart, hle, hfits⟩ := start_four ha
    obtain rfl : _ = e := congrArg Prod.snd (hstart.symm.trans h)
    refine ⟨exists_finishes hle _ _, fun tail x hx => ?_⟩
    obtain ⟨b, _, rfl, hb, hb', hx⟩ := finishes_succ.mp hx
    obtain ⟨c, _, rfl, hc, hc', hx⟩ := finishes_succ.mp hx
    obtain ⟨d, rfl, hd, hd', hchar⟩ := finishes_zero.mp hx
    obtain ⟨hbTail, hlong, hvalid⟩ := (hfits b).mp ⟨hb, hb'⟩
    simp only [UInt8.le_iff_toNat_le, UInt8.reduceToNat] at hc hc' hd hd'
    rw [hchar, form_four rfl ha hbTail ⟨hc, hc'⟩ ⟨hd, hd'⟩ (by omega) (by omega)]
    rfl

/-- A form of more than one byte is one that the decoder awaits behind its first byte. -/
lemma exists_start_finishes {x : Char} (hx : 0x7F < x.val.toNat) :
    ∃ a tail e, utf8EncodeChar x = a :: tail ∧ start a = ([], e) ∧ e.Finishes tail x := by
  have hvalid : x.val.toNat < 0xD800 ∨ 0xDFFF < x.val.toNat ∧ x.val.toNat < 0x110000 := x.valid
  have hchar : x = Char.ofNat x.val.toNat := (Char.ofNat_toNat x).symm
  have hbyte {n : Nat} (hn : n < 0x100) : (UInt8.ofNat n).toNat = n := by
    rw [UInt8.toNat_ofNat']
    omega
  have htail {n : Nat} (hn : n < 64) :
      (0x80 : UInt8) ≤ UInt8.ofNat (n + 128) ∧ UInt8.ofNat (n + 128) ≤ 0xBF := by
    rw [UInt8.le_iff_toNat_le, UInt8.le_iff_toNat_le, hbyte (by omega)]
    simp only [UInt8.reduceToNat]
    omega
  rw [utf8EncodeChar, if_neg (by omega)]
  generalize x.val.toNat = v at hx hvalid hchar
  split_ifs with htwo hthree
  · have hstart := start_two (a := UInt8.ofNat (v / 64 % 32 + 192))
      (by rw [hbyte (by omega)]; omega)
    have hsecond := htail (n := v % 64) (by omega)
    refine ⟨_, _, _, rfl, hstart, hsecond.1, hsecond.2, ?_⟩
    refine hchar.trans (congrArg Char.ofNat ?_)
    rw [hbyte (by omega), hbyte (by omega)]
    omega
  · obtain ⟨low, high, hstart, -, hfits⟩ := start_three (a := UInt8.ofNat (v / 4096 % 16 + 224))
      (by rw [hbyte (by omega)]; omega)
    have hsecond := (hfits (UInt8.ofNat (v / 64 % 64 + 128))).mpr
      (by rw [hbyte (by omega), hbyte (by omega)]; omega)
    have hthird := htail (n := v % 64) (by omega)
    refine ⟨_, _, _, rfl, hstart, hsecond.1, hsecond.2, hthird.1, hthird.2, ?_⟩
    refine hchar.trans (congrArg Char.ofNat ?_)
    rw [hbyte (by omega), hbyte (by omega), hbyte (by omega)]
    omega
  · obtain ⟨low, high, hstart, -, hfits⟩ := start_four (a := UInt8.ofNat (v / 262144 % 8 + 240))
      (by rw [hbyte (by omega)]; omega)
    have hsecond := (hfits (UInt8.ofNat (v / 4096 % 64 + 128))).mpr
      (by rw [hbyte (by omega), hbyte (by omega)]; omega)
    have hthird := htail (n := v / 64 % 64) (by omega)
    have hfourth := htail (n := v % 64) (by omega)
    refine ⟨_, _, _, rfl, hstart, hsecond.1, hsecond.2, hthird.1, hthird.2, hfourth.1, hfourth.2,
      ?_⟩
    refine hchar.trans (congrArg Char.ofNat ?_)
    rw [hbyte (by omega), hbyte (by omega), hbyte (by omega), hbyte (by omega)]
    omega

/-! ### Reading without an end -/

/-- The characters that the bytes complete, and where the decoder stands behind them. -/
def read (e : Decoder) : List UInt8 → List Char × Decoder
  | [] => ([], e)
  | b :: bs => ((e.step b).1 ++ ((e.step b).2.read bs).1, ((e.step b).2.read bs).2)

variable {e : Decoder} {piece rest : List UInt8}

lemma read_append :
    e.read (piece ++ rest)
      = ((e.read piece).1 ++ ((e.read piece).2.read rest).1, ((e.read piece).2.read rest).2) := by
  induction piece generalizing e with
  | nil => rfl
  | cons b piece ih => simp only [List.cons_append, read, ih, List.append_assoc]

/-- Reading to the end goes on where reading a piece stops. -/
lemma run_append : e.run (piece ++ rest) = (e.read piece).1 ++ (e.read piece).2.run rest := by
  induction piece generalizing e with
  | nil => rfl
  | cons b piece ih => simp only [List.cons_append, run, read, ih, List.append_assoc]

section Step

variable {low high b : UInt8} {missing scalar : Nat}

lemma step_last (h : low ≤ b ∧ b ≤ high) :
    (inside low high 0 scalar).step b
      = ([Char.ofNat (scalar * 64 + (b.toNat - 0x80))], .ground) :=
  if_pos h

lemma step_more (h : low ≤ b ∧ b ≤ high) :
    (inside low high (missing + 1) scalar).step b
      = ([], .inside 0x80 0xBF missing (scalar * 64 + (b.toNat - 0x80))) :=
  if_pos h

lemma step_unfit (h : ¬ (low ≤ b ∧ b ≤ high)) :
    (inside low high missing scalar).step b = (replacement :: (start b).1, (start b).2) :=
  if_neg h

end Step

/-- The bytes that finish a form are read as its character. -/
lemma read_of_finishes {tail : List UInt8} {x : Char} (h : e.Finishes tail x) :
    e.read tail = ([x], .ground) := by
  fun_induction Finishes e tail x with
  | case1 low high scalar b x =>
      obtain ⟨hlow, hhigh, hx⟩ := h
      rw [read, step_last ⟨hlow, hhigh⟩, ← hx]
      rfl
  | case2 low high missing scalar b tail x ih =>
      obtain ⟨hlow, hhigh, htail⟩ := h
      rw [read, step_more ⟨hlow, hhigh⟩, ih htail]
      rfl
  | case3 => exact absurd h id

/-- The form of a character is read as this character. -/
lemma read_form (x : Char) : ground.read (utf8EncodeChar x) = ([x], .ground) := by
  rcases Nat.lt_or_ge 0x7F x.val.toNat with hx | hx
  · obtain ⟨a, tail, e, hform, hstart, htail⟩ := exists_start_finishes hx
    have hstep : ground.step a = ([], e) := hstart
    rw [hform, read, hstep, read_of_finishes htail]
    rfl
  · have hbyte : (UInt8.ofNat x.val.toNat).toNat = x.val.toNat := by
      rw [UInt8.toNat_ofNat']
      omega
    have hstep : ground.step (UInt8.ofNat x.val.toNat) = ([x], .ground) := by
      have hstart := start_ascii (a := UInt8.ofNat x.val.toNat) (by omega)
      rw [hbyte] at hstart
      exact hstart.trans (congrArg (fun y => ([y], ground)) (Char.ofNat_toNat x))
    rw [utf8EncodeChar, if_pos hx, read, hstep]
    rfl

/-! ### Silence

The decoder gives nothing only while it is inside a form, so what is read of a form starts some
form, and a byte that does not fit starts none with what was read before it. -/

/-- Bytes are read without a character one by one. -/
lemma read_cons_silent {b : UInt8} {e' : Decoder} (h : e.read (b :: rest) = ([], e')) :
    e.step b = ([], (e.step b).2) ∧ (e.step b).2.read rest = ([], e') := by
  rw [read, Prod.mk.injEq] at h
  obtain ⟨houtput, hend⟩ := h
  obtain ⟨hnone, hrest⟩ := List.append_eq_nil_iff.mp houtput
  exact ⟨Prod.ext hnone rfl, Prod.ext hrest hend⟩

/-- No form is awaited between characters. -/
lemma not_behind_ground : ¬ ground.Behind piece := by
  intro h
  obtain ⟨tail, x, htail⟩ := h.goes_on
  simp [Finishes] at htail

/-- A byte that goes on with a form makes a longer piece of it. -/
lemma Behind.step {b : UInt8} (h : e.Behind piece) {e' : Decoder} (hstep : e.step b = ([], e')) :
    e'.Behind (piece ++ [b]) := by
  match e with
  | .ground => exact absurd h not_behind_ground
  | .inside low high missing scalar =>
      by_cases hfits : low ≤ b ∧ b ≤ high
      · cases missing with
        | zero => simp [step_last hfits] at hstep
        | succ missing =>
            obtain rfl : _ = e' := congrArg Prod.snd ((step_more hfits).symm.trans hstep)
            refine ⟨exists_finishes (by decide) _ _, fun tail x htail => ?_⟩
            rw [List.append_assoc]
            exact h.form_of_finishes _ x (finishes_succ.mpr ⟨b, tail, rfl, hfits.1, hfits.2, htail⟩)
      · simp [step_unfit hfits] at hstep

/-- What the decoder is inside of starts a form, -/
lemma Behind.opens (h : e.Behind piece) : Opens piece := by
  obtain ⟨tail, x, htail⟩ := h.goes_on
  exact ⟨x, tail, h.form_of_finishes tail x htail⟩

/-- and it is a whole form with a last byte that fits, -/
lemma Behind.form_of_last {low high b : UInt8} {scalar : Nat}
    (h : (inside low high 0 scalar).Behind piece) (hfits : low ≤ b ∧ b ≤ high) :
    piece ++ [b] = utf8EncodeChar (Char.ofNat (scalar * 64 + (b.toNat - 0x80))) :=
  h.form_of_finishes [b] _ (finishes_zero.mpr ⟨b, rfl, hfits.1, hfits.2, rfl⟩)

/-- so with any byte that fits it starts a form. -/
lemma Behind.opens_of_fits {low high b : UInt8} {missing scalar : Nat}
    (h : (inside low high missing scalar).Behind piece) (hfits : low ≤ b ∧ b ≤ high) :
    Opens (piece ++ [b]) := by
  cases missing with
  | zero => exact ⟨_, [], (List.append_nil _).trans (h.form_of_last hfits)⟩
  | succ missing => exact (h.step (step_more hfits)).opens

lemma Behind.read (h : e.Behind piece) {e' : Decoder} (hread : e.read rest = ([], e')) :
    e'.Behind (piece ++ rest) := by
  induction rest generalizing e piece with
  | nil =>
      obtain rfl : e = e' := congrArg Prod.snd hread
      rwa [List.append_nil]
  | cons b rest ih =>
      obtain ⟨hstep, hrest⟩ := read_cons_silent hread
      have hpiece := ih (h.step hstep) hrest
      rwa [List.append_assoc] at hpiece

/-- Bytes that lead inside a form without a character are a piece of this form. -/
lemma behind_of_read (h : ground.read piece = ([], e)) (hne : e ≠ .ground) : e.Behind piece := by
  cases piece with
  | nil => exact absurd (congrArg Prod.snd h).symm hne
  | cons b piece =>
      obtain ⟨hstep, hrest⟩ := read_cons_silent h
      exact (behind_start hstep).read hrest

/-- A step without a character does not end between characters. -/
lemma step_silent {b : UInt8} {e' : Decoder} (h : e.step b = ([], e')) : e' ≠ .ground := by
  rintro rfl
  match e with
  | .ground => exact not_behind_ground (behind_start h)
  | .inside low high missing scalar =>
      by_cases hfits : low ≤ b ∧ b ≤ high
      · cases missing with
        | zero => simp [step_last hfits] at h
        | succ missing => simp [step_more hfits] at h
      · simp [step_unfit hfits] at h

/-- Bytes that end between characters without one are none, and there they start. -/
lemma eq_nil_of_read (h : e.read piece = ([], .ground)) : e = .ground ∧ piece = [] := by
  induction piece generalizing e with
  | nil => exact ⟨congrArg Prod.snd h, rfl⟩
  | cons b piece ih =>
      obtain ⟨hstep, hrest⟩ := read_cons_silent h
      exact absurd (ih hrest).1 (step_silent hstep)

end Decoder

open Decoder

variable {piece rest : List UInt8}

/-- A piece of a form with more to come is read without a character. -/
lemma read_of_opens (h : Opens piece) (hform : ∀ x, utf8EncodeChar x ≠ piece) :
    (ground.read piece).1 = [] := by
  obtain ⟨x, more, hx⟩ := h
  have hne : more ≠ [] := by
    rintro rfl
    exact hform x (by rw [← hx, List.append_nil])
  have hread := read_form x
  rw [← hx, read_append, Prod.mk.injEq] at hread
  obtain ⟨houtput, hend⟩ := hread
  rcases List.append_eq_singleton_iff.mp houtput with ⟨hnone, -⟩ | ⟨-, hnone⟩
  · exact hnone
  · have hmore : (ground.read piece).2.read more = ([], .ground) := Prod.ext hnone hend
    exact absurd (eq_nil_of_read hmore).2 hne

/-- A byte that does not fit makes no longer piece. -/
lemma not_opens_of_unfit {low high b : UInt8} {missing scalar : Nat}
    (hread : ground.read piece = ([], .inside low high missing scalar))
    (hunfit : ¬ (low ≤ b ∧ b ≤ high)) : ¬ Opens (piece ++ [b]) := by
  rintro ⟨x, more, hx⟩
  have hform := read_form x
  have hgarbled : (Decoder.inside low high missing scalar).read (b :: more) = ([x], .ground) := by
    rw [← hx, List.append_assoc, read_append, hread] at hform
    exact hform
  simp only [Decoder.read, step_unfit hunfit, Prod.mk.injEq] at hgarbled
  obtain ⟨houtput, hend⟩ := hgarbled
  obtain ⟨hnone, hmore⟩ := List.append_eq_nil_iff.mp (List.cons.inj houtput).2
  have hstart : ground.step b = ([], (start b).2) := Prod.ext hnone rfl
  have hsilent : (start b).2.read more = ([], .ground) := Prod.ext hmore hend
  exact step_silent hstart (eq_nil_of_read hsilent).1

/-! ### The decoder reads forms and malformed pieces -/

/-- A byte between characters that starts no form is malformed. -/
lemma not_opens_of_stray {b : UInt8} (h : start b = ([replacement], .ground)) : ¬ Opens [b] := by
  rintro ⟨x, more, hx⟩
  have hform := read_form x
  have hstep : ground.step b = ([replacement], .ground) := h
  rw [← hx, List.singleton_append, Decoder.read, hstep, Prod.mk.injEq] at hform
  obtain ⟨hx', hmore⟩ := List.cons.inj hform.1
  have hsilent : ground.read more = ([], .ground) := Prod.ext hmore hform.2
  obtain rfl := (eq_nil_of_read hsilent).2
  have hlength := congrArg List.length hx
  have hsize : replacement.utf8Size = 3 := by decide
  rw [← hx', String.length_utf8EncodeChar, hsize] at hlength
  simp at hlength

lemma malformed_of_stray {b : UInt8} (h : start b = ([replacement], .ground)) :
    Malformed [b] rest where
  ne_nil := List.cons_ne_nil b []
  no_form x hx := by
    cases hform : utf8EncodeChar x with
    | nil => exact absurd hform String.utf8EncodeChar_ne_nil
    | cons d more =>
        rw [hform] at hx
        obtain rfl : d = b := (List.cons_prefix_cons.mp hx).1
        exact not_opens_of_stray h ⟨x, more, hform.symm⟩
  opens hlength := absurd hlength (by simp)
  longest d _ hopens := not_opens_of_stray h hopens.of_append

/-- Bytes of a form are malformed if no byte comes next that fits. -/
lemma malformed_of_read {low high : UInt8} {missing scalar : Nat}
    (hread : ground.read piece = ([], .inside low high missing scalar))
    (hunfit : ∀ b ∈ rest.head?, ¬ (low ≤ b ∧ b ≤ high)) : Malformed piece rest := by
  have hne : piece ≠ [] := by
    rintro rfl
    simp [Decoder.read] at hread
  have hlongest : ∀ b ∈ rest.head?, ¬ Opens (piece ++ [b]) := fun b hb =>
    not_opens_of_unfit hread (hunfit b hb)
  have hnone : ∀ x more, piece ≠ utf8EncodeChar x ++ more := by
    rintro x more rfl
    rw [read_append, read_form] at hread
    simp at hread
  refine ⟨hne, fun x hx => ?_, fun _ => (behind_of_read hread (by simp)).opens, hlongest⟩
  obtain ⟨after, hafter⟩ := hx
  rcases List.append_eq_append_iff.mp hafter with ⟨gap, hpiece, -⟩ | ⟨gap, hform, hrest⟩
  · exact hnone x gap hpiece
  · cases gap with
    | nil => exact hnone x [] (by rw [hform, List.append_nil, List.append_nil])
    | cons b gap =>
        refine hlongest b (by rw [hrest]; rfl) ⟨x, gap, ?_⟩
        rw [hform, List.append_assoc]
        rfl

/-- What a step does with the piece of a form that is read so far: the byte finishes the form, or it
makes a longer piece, or it stands alone and is malformed, or the piece is malformed and the byte is
read anew. -/
lemma step_cases {e : Decoder} (hread : ground.read piece = ([], e)) (b : UInt8) :
    (∃ x, piece ++ [b] = utf8EncodeChar x ∧ e.step b = ([x], .ground)) ∨
      (∃ e', ground.read (piece ++ [b]) = ([], e') ∧ e.step b = ([], e')) ∨
      (piece = [] ∧ (∀ rest, Malformed [b] rest) ∧ e.step b = ([replacement], .ground)) ∨
      (∀ rest, Malformed piece (b :: rest)) ∧
        e.step b = (replacement :: (ground.step b).1, (ground.step b).2) := by
  have hlonger {e' : Decoder} (hstep : e.step b = ([], e')) :
      ground.read (piece ++ [b]) = ([], e') := by
    rw [read_append, hread, Decoder.read, hstep]
    rfl
  match e with
  | .ground =>
      obtain rfl := (eq_nil_of_read hread).2
      rcases start_cases b with ⟨x, hform, hstart⟩ | hstart | ⟨e', hstart⟩
      · exact .inl ⟨x, hform.symm, hstart⟩
      · exact .inr (.inr (.inl ⟨rfl, fun _ => malformed_of_stray hstart, hstart⟩))
      · exact .inr (.inl ⟨e', hlonger hstart, hstart⟩)
  | .inside low high missing scalar =>
      have hbehind : (Decoder.inside low high missing scalar).Behind piece :=
        behind_of_read hread (by simp)
      by_cases hfits : low ≤ b ∧ b ≤ high
      · cases missing with
        | zero => exact .inl ⟨_, hbehind.form_of_last hfits, step_last hfits⟩
        | succ missing => exact .inr (.inl ⟨_, hlonger (step_more hfits), step_more hfits⟩)
      · have hbad (rest : List UInt8) : Malformed piece (b :: rest) := by
          refine malformed_of_read hread fun d hd => ?_
          obtain rfl : b = d := by simpa using hd
          exact hfits
        exact .inr (.inr (.inr ⟨hbad, step_unfit hfits⟩))

/-- What the decoder gives from inside a form on, with what it has read of the form. -/
lemma lossy_run {bs : List UInt8} {e : Decoder} (hread : ground.read piece = ([], e)) :
    Lossy (piece ++ bs) (e.run bs) := by
  induction bs generalizing piece e with
  | nil =>
      rw [List.append_nil]
      cases e with
      | ground =>
          rw [(eq_nil_of_read hread).2]
          exact .nil
      | inside low high missing scalar =>
          have hbad : Malformed piece [] := malformed_of_read hread (by simp)
          rw [← List.append_nil piece]
          exact .malformed hbad .nil
  | cons b bs ih =>
      have hbs : Lossy ([] ++ bs) (ground.run bs) := ih rfl
      have hjoin (piece : List UInt8) : piece ++ b :: bs = piece ++ [b] ++ bs := by simp
      -- a malformed piece leaves the byte to a decoder between characters, where there is no piece
      have hcut {piece : List UInt8} {e : Decoder} (hread : ground.read piece = ([], e))
          (hagain : Malformed piece (b :: bs) → Lossy (b :: bs) (ground.run (b :: bs))) :
          Lossy (piece ++ b :: bs) (e.run (b :: bs)) := by
        rcases step_cases hread b with
          ⟨x, hform, hstep⟩ | ⟨e', hpiece, hstep⟩ | ⟨rfl, hbad, hstep⟩ | ⟨hbad, hstep⟩
        · rw [hjoin, hform, Decoder.run, hstep]
          exact .char x hbs
        · rw [hjoin, Decoder.run, hstep]
          exact ih hpiece
        · rw [Decoder.run, hstep]
          have hstray := Lossy.malformed (hbad bs) hbs
          exact hstray
        · rw [Decoder.run, hstep]
          exact .malformed (hbad bs) (hagain (hbad bs))
      have hground : Lossy ([] ++ b :: bs) (ground.run (b :: bs)) :=
        hcut rfl fun hbad => absurd rfl hbad.ne_nil
      exact hcut hread fun _ => hground

/-- A character in front is read from its form. -/
lemma decode_form (x : Char) (rest : List UInt8) :
    decode (utf8EncodeChar x ++ rest) = x :: decode rest := by
  rw [decode, run_append, read_form]
  rfl

/-- A malformed piece in front is read as one replacement. -/
lemma decode_malformed (h : Malformed piece rest) :
    decode (piece ++ rest) = replacement :: decode rest := by
  by_cases hopens : Opens piece
  · have hnone : (ground.read piece).1 = [] := read_of_opens hopens fun x hx =>
      h.no_form x (hx ▸ List.prefix_append piece rest)
    have hread : ground.read piece = ([], (ground.read piece).2) := Prod.ext hnone rfl
    rw [decode, run_append, hnone]
    match hinside : (ground.read piece).2 with
    | .ground =>
        rw [hinside] at hread
        exact absurd (eq_nil_of_read hread).2 h.ne_nil
    | .inside low high missing scalar =>
        rw [hinside] at hread
        have hbehind := behind_of_read hread (by simp)
        cases rest with
        | nil => rfl
        | cons b rest =>
            have hunfit : ¬ (low ≤ b ∧ b ≤ high) := fun hfits =>
              h.longest b rfl (hbehind.opens_of_fits hfits)
            rw [Decoder.run, step_unfit hunfit]
            rfl
  · have hlength : piece.length ≤ 1 := by
      by_contra hlong
      exact hopens (h.opens (by omega))
    match piece with
    | [] => exact absurd rfl h.ne_nil
    | [b] =>
        rcases start_cases b with ⟨x, hform, -⟩ | hstart | ⟨e, hstart⟩
        · exact absurd ⟨x, [], by rw [hform]; rfl⟩ hopens
        · have hstep : ground.step b = ([replacement], .ground) := hstart
          rw [List.singleton_append, decode, Decoder.run, hstep]
          rfl
        · exact absurd (behind_start hstart).opens hopens
    | _ :: _ :: _ => simp at hlength

/-- **The characters of any bytes** are those that the decoder gives, and there are no others. -/
theorem lossy_iff {bs : List UInt8} {cs : List Char} : Lossy bs cs ↔ cs = decode bs := by
  constructor
  · intro h
    induction h with
    | nil => rfl
    | char x _ ih => rw [decode_form, ih]
    | malformed hbad _ ih => rw [decode_malformed hbad, ih]
  · rintro rfl
    have hrun : Lossy ([] ++ bs) (ground.run bs) := lossy_run rfl
    exact hrun

/-- An ASCII byte is a character of its own, whatever stands before it. -/
lemma decode_append_ascii (ha : a.toNat < 0x80) (front after : List UInt8) :
    decode (front ++ a :: after) = decode front ++ Char.ofNat a.toNat :: decode after := by
  have hlossy := (lossy_iff.mpr rfl : Lossy front (decode front)).append_ascii ha
    (lossy_iff.mpr rfl : Lossy after (decode after))
  exact (lossy_iff.mp hlossy).symm

end DaemonConsole.Utf8
