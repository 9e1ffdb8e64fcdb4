/-
Completion in an edited line.

The editor asks for what may stand in place of the text in front of its cursor. As long as this text
is within the first word of the line, what is typed of the word may be replaced, by the candidates of
a round for it, and the blanks in front of the word stay. Behind the first word nothing is offered.
Places in the line are counted in bytes, and characters may take several.

* `Text.byteLength_toList`, `Text.takeBytes_append`: the bytes of a text, and the text up to a place
  between characters;
* `Editor.PastWord`: the texts that go beyond a first word;
* `Editor.OffersWord`: what is offered for the others;
* `Editor.completes_first_word`: the answer of the editor for every line and cursor.
-/
import DaemonConsole.Editor.Completer
import DaemonConsole.Proofs.Menu.Rounds

namespace DaemonConsole

/-! ### Places in a text -/

namespace Text

/-- The bytes of a text are those of its characters. -/
lemma byteLength_toList (s : String) : byteLength s.toList = s.utf8ByteSize := by
  have hchars : ∀ cs : List Char, (String.ofList cs).utf8ByteSize = byteLength cs := by
    intro cs
    induction cs with
    | nil => rfl
    | cons c cs ih =>
        rw [String.ofList_cons, String.utf8ByteSize_append, String.utf8ByteSize_singleton, ih,
          byteLength]
  rw [← hchars, String.ofList_toList]

/-- The place behind a text cuts it off from what follows. -/
lemma takeBytes_append (xs ys : List Char) : takeBytes (byteLength xs) (xs ++ ys) = xs := by
  induction xs with
  | nil =>
      cases ys with
      | nil => rfl
      | cons y ys => exact if_neg (Nat.not_le.mpr y.utf8Size_pos)
  | cons x xs ih =>
      rw [List.cons_append, takeBytes, byteLength, if_pos (Nat.le_add_right _ _),
        Nat.add_sub_cancel_left, ih]

end Text

namespace Editor

/-! ### The word in front of the cursor -/

/-- A text is past its first word if a blank stands somewhere behind a character that is not blank. -/
def PastWord (typed : String) : Prop :=
  ∃ c d, [c, d].Sublist typed.toList ∧ Text.isBlank c = false ∧ Text.isBlank d = true

variable {typed gap word : String}

/-- A text is past its first word if it holds a blank beside those at its start. -/
lemma pastWord_iff :
    PastWord typed ↔ (Text.trimStartChars typed.toList).any Text.isBlank = true := by
  have hcut : typed.toList.takeWhile Text.isBlank ++ Text.trimStartChars typed.toList
      = typed.toList := List.takeWhile_append_dropWhile
  rw [List.any_eq_true]
  constructor
  · rintro ⟨c, d, hsub, hc, hd⟩
    rw [← hcut] at hsub
    obtain ⟨front, back, heq, hfront, hback⟩ := List.sublist_append_iff.mp hsub
    cases front with
    | nil =>
        rw [List.nil_append] at heq
        exact ⟨d, hback.subset (heq ▸ by simp), hd⟩
    | cons f front =>
        -- the first of the two characters is not among the blanks at the start
        obtain ⟨rfl, -⟩ := List.cons.inj heq
        rw [List.mem_takeWhile_imp (hfront.subset List.mem_cons_self)] at hc
        cases hc
  · rintro ⟨d, hmem, hd⟩
    have hhead := List.head?_dropWhile_not Text.isBlank typed.toList
    rw [← Text.trimStartChars] at hhead
    cases hword : Text.trimStartChars typed.toList with
    | nil =>
        rw [hword] at hmem
        cases hmem
    | cons c rest =>
        rw [hword] at hmem hhead hcut
        have hc : Text.isBlank c = false := hhead
        rcases List.mem_cons.mp hmem with rfl | hrest
        · rw [hc] at hd
          cases hd
        · have hpair : [c, d].Sublist (c :: rest) := (List.singleton_sublist.mpr hrest).cons_cons c
          exact ⟨c, d, hcut ▸ hpair.trans (List.sublist_append_right _ _), hc, hd⟩

/-- A text that is not past its first word consists of blanks and this word. -/
lemma exists_gap_word (h : ¬ PastWord typed) :
    ∃ gap word, typed = gap ++ word ∧ Text.isAllBlank gap = true ∧ Text.hasBlank word = false := by
  refine ⟨String.ofList (typed.toList.takeWhile Text.isBlank),
    String.ofList (Text.trimStartChars typed.toList), ?_, ?_, ?_⟩
  · rw [← String.ofList_append, Text.trimStartChars, List.takeWhile_append_dropWhile,
      String.ofList_toList]
  · rw [Text.isAllBlank_iff, String.toList_ofList]
    exact fun c hc => List.mem_takeWhile_imp hc
  · rw [Text.hasBlank, String.toList_ofList]
    exact Bool.eq_false_iff.mpr fun hblank => h (pastWord_iff.mpr hblank)

/-- The blanks of such a text are those at its start. -/
lemma takeWhile_gap (hgap : Text.isAllBlank gap = true) (hword : Text.hasBlank word = false) :
    (gap ++ word).toList.takeWhile Text.isBlank = gap.toList := by
  have hblanks : ∀ c ∈ gap.toList, Text.isBlank c = true := Text.isAllBlank_iff.mp hgap
  have hnone : word.toList.takeWhile Text.isBlank = [] := by
    refine List.takeWhile_eq_nil_iff.mpr fun hpos => ?_
    exact List.any_eq_false.mp hword _ (List.getElem_mem hpos)
  rw [String.toList_append, List.takeWhile_append_of_pos hblanks, hnone, List.append_nil]

/-- Without them the word is left. -/
lemma trimStartChars_gap (hgap : Text.isAllBlank gap = true) (hword : Text.hasBlank word = false) :
    Text.trimStartChars (gap ++ word).toList = word.toList := by
  have hcut : (gap ++ word).toList.takeWhile Text.isBlank
      ++ Text.trimStartChars (gap ++ word).toList = (gap ++ word).toList :=
    List.takeWhile_append_dropWhile
  rw [takeWhile_gap hgap hword] at hcut
  exact List.append_cancel_left (hcut.trans (String.toList_append ..))

/-! ### What is offered -/

/-- What is offered while the first word of a line is typed. The text in front of the cursor, `typed`,
consists of blanks, `gap`, and what is typed of the word, `word`; `behind` is the rest of the line. -/
structure OffersWord (m : Menu) (typed behind gap word : String) : Prop where
  cut : typed = gap ++ word
  gap_eq : gap.toList = typed.toList.takeWhile Text.isBlank
  start_le : gap.utf8ByteSize ≤ typed.utf8ByteSize
  word_ok : Text.hasBlank word = false
  /-- The candidates of the word are offered from the place where it starts. -/
  complete_eq : complete m (typed ++ behind) typed.utf8ByteSize
    = (gap.utf8ByteSize, Completion.candidates m word)
  /-- Calls with the states `0`, `1`, … give these candidates one after another, and then nothing. -/
  driven : ∀ calls, Machine.answers (fun r state => Completion.Rounds.next r m word state) {}
      (List.range calls)
    = (List.range calls).map ((Completion.candidates m word)[·]?)
  /-- A line that ends with a candidate in place of the word is read back. -/
  read_back : (∀ c ∈ m.commands, Command.make c.id c.name c.description = .ok c) →
    ∀ name ∈ Completion.candidates m word, Text.splitFirst (gap ++ name) = some (name, "")

section Answers

variable (m : Menu) (behind : String)

/-- The answer for a text, by its characters without the blanks at the start. -/
lemma complete_eq (typed : String) : complete m (typed ++ behind) typed.utf8ByteSize =
    if (Text.trimStartChars typed.toList).any Text.isBlank then (typed.utf8ByteSize, [])
    else (typed.utf8ByteSize - Text.byteLength (Text.trimStartChars typed.toList),
      Completion.candidates m (String.ofList (Text.trimStartChars typed.toList))) := by
  rw [complete, String.toList_append, ← Text.byteLength_toList, Text.takeBytes_append,
    Completion.Rounds.drain_eq_candidates]

/-- A word behind blanks is completed. -/
lemma offersWord_append (hgap : Text.isAllBlank gap = true) (hword : Text.hasBlank word = false) :
    OffersWord m (gap ++ word) behind gap word where
  cut := rfl
  gap_eq := (takeWhile_gap hgap hword).symm
  start_le := by
    rw [String.utf8ByteSize_append]
    exact Nat.le_add_right _ _
  word_ok := hword
  complete_eq := by
    rw [complete_eq, trimStartChars_gap hgap hword, ← Text.hasBlank, hword,
      if_neg Bool.false_ne_true, Text.byteLength_toList, String.utf8ByteSize_append,
      Nat.add_sub_cancel_right, String.ofList_toList]
  driven := Completion.Rounds.answers_range {} m word
  read_back hmenu name hname := by
    have hvalid : ∀ c ∈ m.commands, c.Valid := fun c hc => Command.make_eq_ok_iff.mp (hmenu c hc)
    obtain ⟨hne, hletters⟩ := Completion.word_of_mem_candidates hvalid hname
    exact Text.splitFirst_append_word hgap hletters hne

end Answers

/-- **The editor completes the first word of a line**: over every menu, for every line with a cursor
between two of its characters or at one of its ends,

* nothing is offered, at the cursor, if the text in front of it is past its first word;
* otherwise what is typed of the word may be replaced by the candidates of a round for it. -/
theorem completes_first_word (m : Menu) (typed behind : String) :
    (PastWord typed →
      complete m (typed ++ behind) typed.utf8ByteSize = (typed.utf8ByteSize, [])) ∧
    (¬ PastWord typed → ∃ gap word, OffersWord m typed behind gap word) := by
  constructor
  · intro h
    rw [complete_eq, pastWord_iff.mp h, if_pos rfl]
  · intro h
    obtain ⟨gap, word, rfl, hgap, hword⟩ := exists_gap_word h
    exact ⟨gap, word, offersWord_append m behind hgap hword⟩

-- the wide blank takes three bytes, and so the word starts at the fourth
example : complete ⟨[⟨1, "états", ""⟩]⟩ "\u3000ét now" 6 = (3, ["états"]) := by decide

end Editor

end DaemonConsole
