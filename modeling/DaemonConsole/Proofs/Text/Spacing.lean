/-
The blanks around words.

A line that is not blank is a word with blanks before it and a rest that does not go on with it. So
its split is known from this word and the rest, and neither the split nor the words of a line see
the blanks at its two ends.

* `exists_word`: a line that is not blank has a first word;
* `wordsOfChars_trim`: trimming keeps the words;
* `words_of_splitFirst`: the words of a line are its first word and those of the rest;
* `splitFirst_trim`: a line is split as its trimmed form is;
* `splitFirst_of_words`: how lines of the same words are split.
-/
import DaemonConsole.Proofs.Text.Split
import DaemonConsole.Proofs.Text.Words

namespace DaemonConsole.Text

variable {cs gap : List Char}

/-! ### The first word -/

/-- A text that is not blank is a word behind blanks, with a rest that does not go on with it. -/
lemma exists_word (h : ¬ ∀ c ∈ cs, isBlank c = true) :
    ∃ before word rest, cs = before ++ (word ++ rest) ∧ (∀ c ∈ before, isBlank c = true) ∧
      (∀ c ∈ word, isBlank c = false) ∧ word ≠ [] ∧ rest.takeWhile (!isBlank ·) = [] := by
  have hsome : 0 < (trimStartChars cs).length :=
    List.length_pos_iff.mpr fun hnil => h (trimStartChars_eq_nil_iff.mp hnil)
  refine ⟨cs.takeWhile isBlank, (trimStartChars cs).takeWhile (!isBlank ·),
    (trimStartChars cs).dropWhile (!isBlank ·), ?_, ?_, ?_, ?_, ?_⟩
  · rw [List.takeWhile_append_dropWhile]
    exact List.takeWhile_append_dropWhile.symm
  · exact fun c hc => List.mem_takeWhile_imp hc
  · exact fun c hc => by simpa using List.mem_takeWhile_imp hc
  · intro hnil
    have hhead := List.takeWhile_eq_nil_iff.mp hnil hsome
    rw [Bool.not_eq_true, Bool.not_eq_false'] at hhead
    exact List.dropWhile_get_zero_not isBlank cs hsome hhead
  · exact List.takeWhile_eq_nil_iff.mpr fun hpos => List.dropWhile_get_zero_not _ _ hpos

/-- What does not go on with a word does not do so with blanks behind it either. -/
lemma takeWhile_append_blank {rest : List Char} (hrest : rest.takeWhile (!isBlank ·) = [])
    (hgap : ∀ c ∈ gap, isBlank c = true) : (rest ++ gap).takeWhile (!isBlank ·) = [] := by
  cases rest with
  | nil => simpa using fun hpos => hgap _ (List.getElem_mem hpos)
  | cons c rest =>
      have hc : isBlank c = true := by simpa using hrest
      simp [hc]

/-! ### The blanks at the end -/

/-- Blanks hold no word. -/
lemma wordsOfChars_eq_nil (h : ∀ c ∈ gap, isBlank c = true) : wordsOfChars gap = [] := by
  have hall := wordsOfChars_blank h []
  rwa [List.append_nil] at hall

/-- Blanks at the end hold no word. -/
lemma wordsOfChars_append_blank (hgap : ∀ c ∈ gap, isBlank c = true) (cs : List Char) :
    wordsOfChars (cs ++ gap) = wordsOfChars cs := by
  induction hlength : cs.length using Nat.strong_induction_on generalizing cs with
  | _ n ih =>
    by_cases hblank : ∀ c ∈ cs, isBlank c = true
    · rw [wordsOfChars_blank hblank, wordsOfChars_eq_nil hgap, wordsOfChars_eq_nil hblank]
    · obtain ⟨before, word, rest, rfl, hbefore, hword, hne, hrest⟩ := exists_word hblank
      have hshort : rest.length < n := by
        have hpos := List.length_pos_iff.mpr hne
        simp only [List.length_append] at hlength
        omega
      rw [List.append_assoc, List.append_assoc, wordsOfChars_blank hbefore,
        wordsOfChars_append hword hne (takeWhile_append_blank hrest hgap), ih _ hshort rest rfl,
        wordsOfChars_blank hbefore, wordsOfChars_append hword hne hrest]

/-- Trimming at the end takes blanks away. -/
lemma exists_trimEndChars_append (cs : List Char) :
    ∃ gap, (∀ c ∈ gap, isBlank c = true) ∧ cs = trimEndChars cs ++ gap := by
  induction cs with
  | nil => exact ⟨[], by simp, rfl⟩
  | cons c cs ih =>
      obtain ⟨gap, hgap, hcs⟩ := ih
      rw [trimEndChars]
      cases htrim : trimEndChars cs with
      | cons d ds =>
          rw [htrim] at hcs
          exact ⟨gap, hgap, congrArg (c :: ·) hcs⟩
      | nil =>
          rw [htrim, List.nil_append] at hcs
          subst hcs
          by_cases hc : isBlank c = true
          · exact ⟨c :: cs, List.forall_mem_cons.mpr ⟨hc, hgap⟩, by simp [hc]⟩
          · exact ⟨cs, hgap, by simp [hc]⟩

/-- Nothing is left of blanks. -/
lemma trimEndChars_eq_nil (h : ∀ c ∈ gap, isBlank c = true) : trimEndChars gap = [] := by
  induction gap with
  | nil => rfl
  | cons c gap ih =>
      obtain ⟨hc, hgap⟩ := List.forall_mem_cons.mp h
      rw [trimEndChars, ih hgap]
      simp [hc]

/-- Blanks at the end are dropped. -/
lemma trimEndChars_append_blank (hgap : ∀ c ∈ gap, isBlank c = true) (cs : List Char) :
    trimEndChars (cs ++ gap) = trimEndChars cs := by
  induction cs with
  | nil => exact trimEndChars_eq_nil hgap
  | cons c cs ih => rw [List.cons_append, trimEndChars, trimEndChars, ih]

/-- Blanks at the end do not show in a trimmed text. -/
lemma trimChars_append_blank (hgap : ∀ c ∈ gap, isBlank c = true) (cs : List Char) :
    trimChars (cs ++ gap) = trimChars cs := by
  by_cases hblank : ∀ c ∈ cs, isBlank c = true
  · have hgapNil := trimChars_append hgap []
    have hcsNil := trimChars_append hblank []
    rw [List.append_nil] at hgapNil hcsNil
    rw [trimChars_append hblank, hgapNil, hcsNil]
  · obtain ⟨before, word, rest, rfl, hbefore, hword, hne, -⟩ := exists_word hblank
    have hstart (rest : List Char) : trimStartChars (word ++ rest) = word ++ rest := by
      cases word with
      | nil => exact absurd rfl hne
      | cons c word => exact List.dropWhile_cons_of_neg (by simp [hword c List.mem_cons_self])
    rw [List.append_assoc, List.append_assoc, trimChars_append hbefore, trimChars_append hbefore,
      trimChars, trimChars, hstart, hstart, ← List.append_assoc, trimEndChars_append_blank hgap]

/-! ### Trimmed texts -/

/-- A text is its trimmed form between blanks. -/
lemma exists_trimChars_append (cs : List Char) :
    ∃ before behind, (∀ c ∈ before, isBlank c = true) ∧ (∀ c ∈ behind, isBlank c = true) ∧
      cs = before ++ (trimChars cs ++ behind) := by
  obtain ⟨behind, hbehind, hend⟩ := exists_trimEndChars_append (trimStartChars cs)
  refine ⟨cs.takeWhile isBlank, behind, fun c hc => List.mem_takeWhile_imp hc, hbehind, ?_⟩
  rw [trimChars, ← hend]
  exact List.takeWhile_append_dropWhile.symm

/-- Trimming keeps the words. -/
lemma wordsOfChars_trim (cs : List Char) : wordsOfChars (trimChars cs) = wordsOfChars cs := by
  obtain ⟨before, behind, hbefore, hbehind, hcs⟩ := exists_trimChars_append cs
  have hwords := wordsOfChars_blank hbefore (trimChars cs ++ behind)
  rw [← hcs, wordsOfChars_append_blank hbehind] at hwords
  exact hwords.symm

/-! ### Lines -/

/-- Blanks around a line do not show in its split. -/
lemma splitFirstChars_around {before behind : List Char} (hbefore : ∀ c ∈ before, isBlank c = true)
    (hbehind : ∀ c ∈ behind, isBlank c = true) (cs : List Char) :
    splitFirstChars (before ++ (cs ++ behind)) = splitFirstChars cs := by
  by_cases hblank : ∀ c ∈ cs, isBlank c = true
  · have hall : ∀ c ∈ before ++ (cs ++ behind), isBlank c = true := by
      simp only [List.mem_append]
      rintro c (hc | hc | hc)
      · exact hbefore c hc
      · exact hblank c hc
      · exact hbehind c hc
    rw [splitFirstChars, splitFirstChars, trimStartChars_eq_nil_iff.mpr hall,
      trimStartChars_eq_nil_iff.mpr hblank]
  · obtain ⟨front, word, rest, rfl, hfront, hword, hne, hrest⟩ := exists_word hblank
    have hjoin : before ++ (front ++ (word ++ rest) ++ behind)
        = (before ++ front) ++ (word ++ (rest ++ behind)) := by simp
    have hblanks : ∀ c ∈ before ++ front, isBlank c = true :=
      List.forall_mem_append.mpr ⟨hbefore, hfront⟩
    rw [hjoin, splitFirstChars_append hblanks hword hne (takeWhile_append_blank hrest hbehind),
      trimChars_append_blank hbehind, splitFirstChars_append hfront hword hne hrest]

/-- A line is split as its trimmed form is. -/
lemma splitFirst_trim (line : String) : splitFirst (trim line) = splitFirst line := by
  obtain ⟨before, behind, hbefore, hbehind, hline⟩ := exists_trimChars_append line.toList
  have hsplit := splitFirstChars_around hbefore hbehind (trimChars line.toList)
  rw [← hline] at hsplit
  rw [splitFirst, trim, String.toList_ofList, ← hsplit, splitFirst]

/-- The words of a line are its first word and those of the rest. -/
lemma words_of_splitFirst {line word rest : String} (h : splitFirst line = some (word, rest)) :
    words line = word :: words rest := by
  obtain ⟨split, hsplit, heq⟩ := Option.map_eq_some_iff.mp h
  by_cases hblank : ∀ c ∈ line.toList, isBlank c = true
  · rw [splitFirstChars, trimStartChars_eq_nil_iff.mpr hblank] at hsplit
    cases hsplit
  · obtain ⟨front, chars, behind, hline, hfront, hchars, hne, hbehind⟩ := exists_word hblank
    rw [hline, splitFirstChars_append hfront hchars hne hbehind] at hsplit
    obtain rfl := Option.some.inj hsplit
    obtain ⟨rfl, rfl⟩ := Prod.mk.inj heq
    rw [words, hline, wordsOfChars_blank hfront, wordsOfChars_append hchars hne hbehind,
      List.map_cons, words, String.toList_ofList, wordsOfChars_trim]

/-- A line without a first word has no words. -/
lemma splitFirst_eq_none_iff_words {line : String} : splitFirst line = none ↔ words line = [] := by
  constructor
  · intro h
    have hblank := isAllBlank_iff.mp (splitFirst_eq_none_iff.mp h)
    rw [words, wordsOfChars_eq_nil hblank, List.map_nil]
  · intro h
    cases hsplit : splitFirst line with
    | none => rfl
    | some split =>
        rw [words_of_splitFirst hsplit] at h
        cases h

/-- Lines of the same words have the same first word, and rests of the same words. -/
lemma splitFirst_of_words {line line' word rest : String} (hwords : words line = words line')
    (h : splitFirst line = some (word, rest)) :
    ∃ rest', splitFirst line' = some (word, rest') ∧ words rest = words rest' := by
  rw [words_of_splitFirst h] at hwords
  cases hsplit : splitFirst line' with
  | none =>
      rw [splitFirst_eq_none_iff_words.mp hsplit] at hwords
      cases hwords
  | some split =>
      rw [words_of_splitFirst hsplit] at hwords
      obtain ⟨rfl, hrest⟩ := List.cons.inj hwords
      exact ⟨split.2, rfl, hrest⟩

end DaemonConsole.Text
