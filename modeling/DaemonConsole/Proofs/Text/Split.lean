/-
The first word of a line.

* `Text.isAllBlank_iff`, `Text.hasBlank_eq_false_iff`: blank texts and texts without blanks;
* `Text.splitFirst_eq_none_iff`: a line has no word exactly if it is blank;
* `Text.splitFirst_append`: a word with blanks around it and anything behind these is read back;
* `Text.splitFirst_word`: so is a word by itself;
* `Text.startsWith_iff`: stems are prefixes.
-/
import DaemonConsole.Text.Blank
import Mathlib.Data.List.TakeWhile
import Mathlib.Tactic.Lemma

namespace DaemonConsole.Text

/-! ### Blank lines -/

/-- A text is blank if all its characters are. -/
lemma isAllBlank_iff {s : String} : isAllBlank s = true ↔ ∀ c ∈ s.toList, isBlank c = true :=
  List.all_eq_true

/-- A text is not blank if a character of it is not. -/
lemma isAllBlank_eq_false_iff {s : String} :
    isAllBlank s = false ↔ ∃ c ∈ s.toList, isBlank c = false := by
  rw [isAllBlank, List.all_eq_false]
  simp only [Bool.not_eq_true]

/-- A text holds no blank if none of its characters is one. -/
lemma hasBlank_eq_false_iff {s : String} :
    hasBlank s = false ↔ ∀ c ∈ s.toList, isBlank c = false := by
  rw [hasBlank, List.any_eq_false]
  simp only [Bool.not_eq_true]

/-- Nothing is left of the blanks at the start exactly if there is nothing else. -/
lemma trimStartChars_eq_nil_iff {cs : List Char} :
    trimStartChars cs = [] ↔ ∀ c ∈ cs, isBlank c = true :=
  List.dropWhile_eq_nil_iff

/-- Where something else is left, the split takes its word and trims what is behind. -/
lemma splitFirstChars_eq {cs start : List Char} (hstart : trimStartChars cs = start)
    (hne : start ≠ []) :
    splitFirstChars cs
      = some (start.takeWhile (!isBlank ·), trimChars (start.dropWhile (!isBlank ·))) := by
  cases start with
  | nil => exact absurd rfl hne
  | cons c rest => rw [splitFirstChars, hstart]

/-- A line has no word exactly if it is blank. -/
lemma splitFirst_eq_none_iff {line : String} : splitFirst line = none ↔ isAllBlank line = true := by
  rw [splitFirst, Option.map_eq_none_iff, isAllBlank_iff, ← trimStartChars_eq_nil_iff,
    splitFirstChars]
  cases trimStartChars line.toList with
  | nil => simp
  | cons c rest => simp

/-- A line that is not blank has a word. -/
lemma exists_splitFirst {line : String} (h : isAllBlank line = false) :
    ∃ word rest, splitFirst line = some (word, rest) := by
  cases hsplit : splitFirst line with
  | none =>
      rw [splitFirst_eq_none_iff.mp hsplit] at h
      cases h
  | some split => exact ⟨split.1, split.2, rfl⟩

/-! ### Lines that are put together -/

section Append

variable {before word gap rest : List Char}

/-- Blanks do not go on with a word, and neither does what is behind them. -/
lemma takeWhile_blank (hgap : ∀ c ∈ gap, isBlank c = true) (hrest : gap = [] → rest = []) :
    (gap ++ rest).takeWhile (!isBlank ·) = [] := by
  cases gap with
  | nil =>
      rw [hrest rfl]
      rfl
  | cons c gap =>
      have hc : isBlank c = true := hgap c List.mem_cons_self
      exact List.takeWhile_cons_of_neg (by simp [hc])

/-- Blanks at the start are dropped. -/
lemma trimStartChars_append (hbefore : ∀ c ∈ before, isBlank c = true) (rest : List Char) :
    trimStartChars (before ++ rest) = trimStartChars rest :=
  List.dropWhile_append_of_pos hbefore

/-- Blanks at the start do not show in a trimmed text. -/
lemma trimChars_append (hbefore : ∀ c ∈ before, isBlank c = true) (rest : List Char) :
    trimChars (before ++ rest) = trimChars rest := by
  rw [trimChars, trimStartChars_append hbefore, trimChars]

/-- A word behind blanks, with a rest that does not go on with it, is the first word. -/
lemma splitFirstChars_append (hbefore : ∀ c ∈ before, isBlank c = true)
    (hword : ∀ c ∈ word, isBlank c = false) (hne : word ≠ [])
    (hrest : rest.takeWhile (!isBlank ·) = []) :
    splitFirstChars (before ++ (word ++ rest)) = some (word, trimChars rest) := by
  have hletters : ∀ c ∈ word, (!isBlank c) = true := fun c hc => by rw [hword c hc]; rfl
  have hdrop : rest.dropWhile (!isBlank ·) = rest := by
    have hjoin := List.takeWhile_append_dropWhile (p := (!isBlank ·)) (l := rest)
    rwa [hrest, List.nil_append] at hjoin
  have hstart : trimStartChars (before ++ (word ++ rest)) = word ++ rest := by
    rw [trimStartChars_append hbefore]
    cases word with
    | nil => exact absurd rfl hne
    | cons c cs => exact List.dropWhile_cons_of_neg (by simp [hword c List.mem_cons_self])
  rw [splitFirstChars_eq hstart (List.append_ne_nil_of_left_ne_nil hne rest),
    List.takeWhile_append_of_pos hletters, List.dropWhile_append_of_pos hletters, hrest, hdrop,
    List.append_nil]

end Append

/-- A word between blanks, with anything behind them, is read back: it is the first word of the line,
and the rest is what is behind it without the blanks at its ends. -/
lemma splitFirst_append {before word gap args : String} (hbefore : isAllBlank before = true)
    (hword : hasBlank word = false) (hne : word ≠ "") (hgap : isAllBlank gap = true)
    (hargs : gap = "" → args = "") :
    splitFirst (before ++ word ++ gap ++ args) = some (word, trim args) := by
  have hblanks : ∀ c ∈ gap.toList, isBlank c = true := isAllBlank_iff.mp hgap
  have hrest : (gap.toList ++ args.toList).takeWhile (!isBlank ·) = [] := by
    refine takeWhile_blank hblanks fun hnil => ?_
    rw [hargs (String.toList_eq_nil_iff.mp hnil)]
    rfl
  rw [splitFirst, String.toList_append, String.toList_append, String.toList_append,
    List.append_assoc, List.append_assoc,
    splitFirstChars_append (isAllBlank_iff.mp hbefore) (hasBlank_eq_false_iff.mp hword)
      (fun h => hne (String.toList_eq_nil_iff.mp h)) hrest,
    trimChars_append hblanks, Option.map_some]
  exact congrArg (fun w => some (w, trim args)) String.ofList_toList

/-- A word behind blanks, with nothing behind it, is the first word of the line. -/
lemma splitFirst_append_word {before word : String} (hbefore : isAllBlank before = true)
    (hword : hasBlank word = false) (hne : word ≠ "") :
    splitFirst (before ++ word) = some (word, "") := by
  have hsplit : splitFirst (before ++ word ++ "" ++ "") = some (word, trim "") :=
    splitFirst_append hbefore hword hne rfl fun _ => rfl
  rwa [String.append_empty, String.append_empty] at hsplit

/-- A word by itself is its own first word, with nothing behind it. -/
lemma splitFirst_word {word : String} (hword : hasBlank word = false) (hne : word ≠ "") :
    splitFirst word = some (word, "") := by
  have hsplit : splitFirst ("" ++ word) = some (word, "") := splitFirst_append_word rfl hword hne
  rwa [String.empty_append] at hsplit

/-! ### Stems -/

/-- A text starts with the stems that are prefixes of it. -/
lemma startsWith_iff {name stem : String} :
    startsWith name stem = true ↔ stem.toList <+: name.toList :=
  List.isPrefixOf_iff_prefix

end DaemonConsole.Text
