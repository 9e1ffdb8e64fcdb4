/-
Texts in UTF-8 are read back.

The bytes of a text are the forms of its characters, one after the other. Each form is read as its
character, and the decoder stands between characters again.

* `forms`: the forms of characters; `encode_eq`: they are the bytes of a text;
* `decode_forms`, `isWellFormed_forms`: they are read as these characters, without a replacement;
* `cut_forms`: cutting them at the byte of a line feed cuts the characters at the line feeds.
-/
import DaemonConsole.Proofs.Text.Cut
import DaemonConsole.Proofs.Text.Utf8

namespace DaemonConsole.Utf8

open String (utf8EncodeChar)

/-! ### The bytes of a text -/

/-- The forms of characters, one after the other. -/
def forms (cs : List Char) : List UInt8 :=
  cs.flatMap utf8EncodeChar

/-- Listing bytes from a position on adds those behind it. -/
lemma toList_loop_eq (bs : ByteArray) (i : Nat) (front : List UInt8) :
    ByteArray.toList.loop bs i front = front.reverse ++ bs.data.toList.drop i := by
  fun_induction ByteArray.toList.loop bs i front with
  | case1 i front hlt ih =>
      have hlength : i < bs.data.toList.length := by simpa using hlt
      have hbyte : bs.get! i = bs.data.toList[i] := by
        rw [Array.getElem_toList]
        exact getElem!_pos bs.data i hlt
      rw [ih, List.drop_eq_getElem_cons hlength, hbyte, List.reverse_cons, List.append_assoc,
        List.singleton_append]
  | case2 i front hge =>
      have hlength : bs.data.toList.length ≤ i := by simpa using hge
      rw [List.drop_eq_nil_of_le hlength, List.append_nil]

/-- The bytes of a text are the forms of its characters. -/
lemma encode_eq (s : String) : encode s = forms s.toList := by
  have hbytes : s.toUTF8 = (forms s.toList).toByteArray := String.utf8Encode_toList.symm
  rw [encode, hbytes, ByteArray.toList, toList_loop_eq, List.toList_data_toByteArray]
  rfl

/-! ### Reading forms -/

/-- The forms of characters are read as these characters. -/
lemma decode_forms (cs : List Char) : decode (forms cs) = cs := by
  induction cs with
  | nil => rfl
  | cons c cs ih => rw [forms, List.flatMap_cons, decode_form, ← forms, ih]

/-- A byte that starts a form fits between characters. -/
lemma Decoder.accepts_start {a : UInt8} {e : Decoder} (h : start a = ([], e)) :
    ground.accepts a = true := by
  have hfits : 0xC2 ≤ a.toNat ∧ a.toNat ≤ 0xF4 := by
    rcases lead_cases a with ha | ha | ha | ha | ha
    · simp [start_ascii ha] at h
    · simp [start_stray ha] at h
    all_goals omega
  simp [accepts, UInt8.le_iff_toNat_le, hfits]

/-- The bytes that finish a form fit, and what follows them stands between characters. -/
lemma Decoder.accepted_of_finishes {e : Decoder} {tail : List UInt8} {x : Char}
    (h : e.Finishes tail x) (rest : List UInt8) :
    e.accepted (tail ++ rest) = isWellFormed rest := by
  fun_induction Finishes e tail x with
  | case1 low high scalar b x =>
      obtain ⟨hlow, hhigh, -⟩ := h
      rw [List.singleton_append, accepted, step_last ⟨hlow, hhigh⟩]
      simp [accepts, hlow, hhigh, isWellFormed]
  | case2 low high missing scalar b tail x ih =>
      obtain ⟨hlow, hhigh, htail⟩ := h
      rw [List.cons_append, accepted, step_more ⟨hlow, hhigh⟩, ih htail]
      simp [accepts, hlow, hhigh]
  | case3 => exact absurd h id

/-- The form of a character in front is well-formed. -/
lemma isWellFormed_form (x : Char) (rest : List UInt8) :
    isWellFormed (utf8EncodeChar x ++ rest) = isWellFormed rest := by
  rcases Nat.lt_or_ge 0x7F x.val.toNat with hx | hx
  · obtain ⟨a, tail, e, hform, hstart, htail⟩ := Decoder.exists_start_finishes hx
    have hstep : Decoder.ground.step a = ([], e) := hstart
    rw [hform, isWellFormed, List.cons_append, Decoder.accepted, Decoder.accepts_start hstart,
      hstep, Decoder.accepted_of_finishes htail, Bool.true_and]
  · have hbyte : (UInt8.ofNat x.val.toNat).toNat < 0x80 := by
      rw [UInt8.toNat_ofNat']
      omega
    have hstep : Decoder.ground.step (UInt8.ofNat x.val.toNat) = ([_], .ground) := start_ascii hbyte
    have hfits : Decoder.ground.accepts (UInt8.ofNat x.val.toNat) = true := by
      rw [Decoder.accepts, decide_eq_true (UInt8.lt_iff_toNat_lt.mpr hbyte), Bool.true_or]
    rw [utf8EncodeChar, if_pos hx, isWellFormed, List.singleton_append, Decoder.accepted, hfits,
      hstep, Bool.true_and, isWellFormed]

/-- The forms of characters are well-formed. -/
lemma isWellFormed_forms (cs : List Char) : isWellFormed (forms cs) = true := by
  induction cs with
  | nil => rfl
  | cons c cs ih => rw [forms, List.flatMap_cons, isWellFormed_form, ← forms, ih]

/-! ### Line feeds -/

/-- The byte of a line feed stands in the form of this character only. -/
lemma feed_not_mem_forms {cs : List Char} (h : '\n' ∉ cs) : 0x0A ∉ forms cs := by
  intro hfeed
  obtain ⟨c, hc, hbyte⟩ := List.mem_flatMap.mp hfeed
  have hform : utf8EncodeChar c = utf8EncodeChar '\n' := form_of_ascii_mem (by decide) hbyte
  have hsame := (Decoder.read_form c).symm.trans (hform ▸ Decoder.read_form '\n')
  have hchar : c = '\n' := List.singleton_inj.mp (congrArg Prod.fst hsame)
  exact h (hchar ▸ hc)

/-- Bytes that are cut at the line feeds are the forms of the pieces. -/
lemma cut_forms {cs : List Char} {pieces : List (List Char)} (h : Text.Cut '\n' cs pieces) :
    Text.Cut 0x0A (forms cs) (pieces.map forms) := by
  have hfeed : utf8EncodeChar '\n' = [0x0A] := by decide
  induction h with
  | nil => exact .nil
  | @last x hne hx =>
      refine .last (fun hnil => hne ?_) (feed_not_mem_forms hx)
      rw [← decode_forms x, hnil]
      rfl
  | @cons x rest pieces hx _ ih =>
      have hpiece : forms (x ++ ['\n']) = forms x ++ [0x0A] := by simp [forms, hfeed]
      have hjoin : forms (x ++ '\n' :: rest) = forms x ++ 0x0A :: forms rest := by
        simp [forms, hfeed]
      rw [hjoin, List.map_cons, hpiece]
      exact .cons (feed_not_mem_forms hx) ih

end DaemonConsole.Utf8
