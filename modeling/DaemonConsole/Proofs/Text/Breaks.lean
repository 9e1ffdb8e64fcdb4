/-
Line breaks, and texts that hold none.

The characters at which a line breaks are blank, so they stand between the words of a text and never
inside one. What is put together from words and from other texts without breaks is one line.

* `isBreak`, `Unbroken`: the breaks, and the texts without;
* `word_of_mem_words`, `word_of_splitFirst`: the words of a text are words, and so without breaks;
* `count_feed_join`: lines without breaks that are ended by line feeds have one feed each;
* `unbreak`: a text with a space for each break; `words_unbreak`: it has the same words.
-/
import DaemonConsole.Proofs.Text.Spacing

namespace DaemonConsole.Text

/-! ### Breaks -/

/-- The characters at which a line breaks: line feed, vertical tab, form feed, carriage return, next
line, and the separators of lines and paragraphs. -/
def isBreak (c : Char) : Bool :=
  let n := c.toNat
  (0x0A ≤ n && n ≤ 0x0D) || n == 0x85 || n == 0x2028 || n == 0x2029

/-- A break is blank. -/
lemma isBlank_of_isBreak {c : Char} (h : isBreak c = true) : isBlank c = true := by
  simp only [isBreak, isBlank, Bool.or_eq_true, Bool.and_eq_true, decide_eq_true_eq,
    beq_iff_eq] at h ⊢
  omega

/-- A text without breaks. -/
def Unbroken (s : String) : Prop :=
  ∀ c ∈ s.toList, isBreak c = false

/-- A text is without breaks if each of its characters is found to be none. -/
lemma all_iff_unbroken (s : String) : (s.toList.all fun c => !isBreak c) = true ↔ Unbroken s := by
  simp [Unbroken]

instance (s : String) : Decidable (Unbroken s) :=
  decidable_of_iff _ (all_iff_unbroken s)

namespace Unbroken

variable {s t : String}

lemma append (hs : Unbroken s) (ht : Unbroken t) : Unbroken (s ++ t) := by
  intro c hc
  rw [String.toList_append] at hc
  rcases List.mem_append.mp hc with hc | hc
  · exact hs c hc
  · exact ht c hc

lemma feed_not_mem (h : Unbroken s) : '\n' ∉ s.toList := fun hfeed =>
  absurd (h '\n' hfeed) (by decide)

end Unbroken

/-! ### Words -/

/-- A word holds no break. -/
lemma Word.unbroken {w : String} (h : Word w) : Unbroken w := by
  intro c hc
  by_contra hbreak
  have hblank := isBlank_of_isBreak (Bool.not_eq_false _ ▸ hbreak)
  rw [h.letters c hc] at hblank
  cases hblank

/-- The words of characters are not empty and hold no blank. -/
lemma of_mem_wordsOfChars {cs word : List Char} (h : word ∈ wordsOfChars cs) :
    word ≠ [] ∧ ∀ c ∈ word, isBlank c = false := by
  induction hlength : cs.length using Nat.strong_induction_on generalizing cs with
  | _ n ih =>
    by_cases hblank : ∀ c ∈ cs, isBlank c = true
    · rw [wordsOfChars_eq_nil hblank] at h
      cases h
    · obtain ⟨before, first, rest, rfl, hbefore, hfirst, hne, hrest⟩ := exists_word hblank
      have hshort : rest.length < n := by
        have hpos := List.length_pos_iff.mpr hne
        simp only [List.length_append] at hlength
        omega
      rw [wordsOfChars_blank hbefore, wordsOfChars_append hfirst hne hrest] at h
      rcases List.mem_cons.mp h with rfl | h
      · exact ⟨hne, hfirst⟩
      · exact ih _ hshort h rfl

/-- The words of a text are words. -/
lemma word_of_mem_words {s w : String} (h : w ∈ words s) : Word w := by
  obtain ⟨word, hword, rfl⟩ := List.mem_map.mp h
  obtain ⟨hne, hletters⟩ := of_mem_wordsOfChars hword
  refine ⟨by rwa [String.toList_ofList], fun hempty => hne ?_⟩
  rw [← String.toList_ofList (l := word), hempty]
  rfl

/-- The first word of a line is a word. -/
lemma word_of_splitFirst {line word rest : String} (h : splitFirst line = some (word, rest)) :
    Word word := by
  refine word_of_mem_words (s := line) ?_
  rw [words_of_splitFirst h]
  exact List.mem_cons_self

/-! ### Lines with their feeds -/

/-- Lines without breaks, each ended by a line feed, have as many feeds as there are lines. -/
lemma count_feed_join {lines : List String} (h : ∀ l ∈ lines, Unbroken l) :
    (String.join (lines.map (· ++ "\n"))).toList.count '\n' = lines.length := by
  induction lines with
  | nil => rfl
  | cons l lines ih =>
      obtain ⟨hl, hlines⟩ := List.forall_mem_cons.mp h
      have hnone : l.toList.count '\n' = 0 := List.count_eq_zero.mpr hl.feed_not_mem
      have hfeed : "\n".toList.count '\n' = 1 := rfl
      rw [List.map_cons, String.join_cons, String.toList_append, String.toList_append,
        List.count_append, List.count_append, hnone, hfeed, ih hlines, List.length_cons]
      omega

/-! ### Breaks replaced -/

/-- A text with a space in the place of every break. -/
def unbreak (s : String) : String :=
  String.ofList (s.toList.map fun c => if isBreak c then ' ' else c)

/-- Characters that stay blank or stay as they are leave the words as they are. -/
lemma wordsOfChars_map {f : Char → Char} (hblank : ∀ c, isBlank c = true → isBlank (f c) = true)
    (hword : ∀ c, isBlank c = false → f c = c) (cs : List Char) :
    wordsOfChars (cs.map f) = wordsOfChars cs := by
  have hkeeps : ∀ c, isBlank (f c) = isBlank c := by
    intro c
    cases hc : isBlank c with
    | true => exact hblank c hc
    | false => rw [hword c hc, hc]
  induction cs with
  | nil => rfl
  | cons c cs ih =>
      cases hc : isBlank c with
      | true =>
          have hskip : wordsOfChars ([c] ++ cs) = wordsOfChars cs :=
            wordsOfChars_blank (List.forall_mem_singleton.mpr hc) cs
          have hskip' : wordsOfChars ([f c] ++ cs.map f) = wordsOfChars (cs.map f) :=
            wordsOfChars_blank (List.forall_mem_singleton.mpr (hblank c hc)) (cs.map f)
          exact hskip'.trans (ih.trans hskip.symm)
      | false =>
          cases cs with
          | nil => rw [List.map_cons, hword c hc, List.map_nil]
          | cons d cs =>
              rw [List.map_cons] at ih
              rw [List.map_cons, List.map_cons, wordsOfChars, wordsOfChars, hword c hc]
              simp only [hkeeps d, ih]

/-- Breaks and spaces separate words alike. -/
lemma words_unbreak (s : String) : words (unbreak s) = words s := by
  rw [words, unbreak, String.toList_ofList, wordsOfChars_map, words]
  · intro c hc
    by_cases hbreak : isBreak c = true
    · rw [if_pos hbreak]
      rfl
    · rwa [if_neg hbreak]
  · intro c hc
    refine if_neg fun hbreak => ?_
    rw [isBlank_of_isBreak hbreak] at hc
    cases hc

end DaemonConsole.Text
