/-
A line as its first word and the rest.

A line that is not blank is made of its first word and a rest, with blanks in front of the word,
between the two and behind the rest. If the rest has no blanks at its own ends, there is one way only
to see a line so, and that is how it is split.

* `Text.Trimmed`: texts without blanks at their ends; `Text.trimmed_trim` and `Text.Trimmed.trim_eq`
  say that trimming gives these and leaves them as they are;
* `Text.Splits`: a line with its first word and the rest;
* `Text.splits_of_splitFirst`, `Text.Splits.splitFirst_eq`: the split gives such a word and rest, and
  no others;
* `Text.splitFirst_unique`: the split of a line.
-/
import DaemonConsole.Proofs.Text.Spacing
import Mathlib.Data.List.Basic
import Mathlib.Logic.ExistsUnique

namespace DaemonConsole.Text

/-! ### Texts without blanks at their ends -/

/-- A text neither starts nor ends with a blank. -/
structure Trimmed (s : String) : Prop where
  head : ∀ c ∈ s.toList.head?, isBlank c = false
  last : ∀ c ∈ s.toList.getLast?, isBlank c = false

section Chars

variable {cs : List Char}

/-- Behind the leading blanks there is no blank. -/
lemma head_trimStartChars (cs : List Char) :
    ∀ c ∈ (trimStartChars cs).head?, isBlank c = false := by
  intro c hc
  have hhead := List.head?_dropWhile_not isBlank cs
  rw [trimStartChars, Option.mem_def] at hc
  rw [hc] at hhead
  simpa using hhead

/-- Where there are no leading blanks, none are dropped. -/
lemma trimStartChars_eq_self (h : ∀ c ∈ cs.head?, isBlank c = false) : trimStartChars cs = cs := by
  cases cs with
  | nil => rfl
  | cons c cs => exact List.dropWhile_cons_of_neg (by simp [h c rfl])

/-- What is trimmed at its end does not end with a blank. -/
lemma last_trimEndChars (cs : List Char) :
    ∀ c ∈ (trimEndChars cs).getLast?, isBlank c = false := by
  induction cs with
  | nil => simp [trimEndChars]
  | cons d cs ih =>
      rw [trimEndChars]
      cases htrim : trimEndChars cs with
      | nil => cases hd : isBlank d <;> simp [hd]
      | cons e es =>
          rw [htrim] at ih
          exact ih

/-- Trimming at the end does not change what a text starts with, if anything is left of it. -/
lemma head_trimEndChars {c : Char} (h : c ∈ (trimEndChars cs).head?) : c ∈ cs.head? := by
  obtain ⟨gap, -, hcs⟩ := exists_trimEndChars_append cs
  rw [hcs, List.head?_append, Option.mem_def.mp h]
  rfl

/-- A trimmed text does not start with a blank. -/
lemma head_trimChars (cs : List Char) : ∀ c ∈ (trimChars cs).head?, isBlank c = false :=
  fun c hc => head_trimStartChars cs c (head_trimEndChars hc)

/-- Where there are no blanks at the end, none are dropped. -/
lemma trimEndChars_eq_self (h : ∀ c ∈ cs.getLast?, isBlank c = false) : trimEndChars cs = cs := by
  obtain ⟨gap, hgap, hcs⟩ := exists_trimEndChars_append cs
  rcases List.eq_nil_or_concat' gap with rfl | ⟨gap', d, rfl⟩
  · rw [List.append_nil] at hcs
    exact hcs.symm
  · have hlast : d ∈ cs.getLast? := by
      rw [hcs, ← List.append_assoc, List.getLast?_concat]
      rfl
    have hblank := hgap d (by simp)
    rw [h d hlast] at hblank
    cases hblank

/-- What does not go on with a word is blanks and its trimmed form, with blanks behind it. If there are
no blanks in front, nothing is left of it. -/
lemma exists_gap (h : cs.takeWhile (!isBlank ·) = []) :
    ∃ gap behind, (∀ c ∈ gap, isBlank c = true) ∧ (∀ c ∈ behind, isBlank c = true) ∧
      cs = gap ++ (trimChars cs ++ behind) ∧ (gap = [] → trimChars cs = []) := by
  obtain ⟨gap, behind, hgap, hbehind, hcs⟩ := exists_trimChars_append cs
  refine ⟨gap, behind, hgap, hbehind, hcs, ?_⟩
  rintro rfl
  cases htrim : trimChars cs with
  | nil => rfl
  | cons c rest =>
      have hletter : isBlank c = false := head_trimChars cs c (by rw [htrim]; rfl)
      rw [hcs, htrim, List.nil_append, List.cons_append,
        List.takeWhile_cons_of_pos (by simp [hletter])] at h
      cases h

end Chars

variable {s line word rest : String}

/-- A trimmed text has no blanks at its ends. -/
lemma trimmed_trim (s : String) : Trimmed (trim s) where
  head c hc := by
    rw [trim, String.toList_ofList] at hc
    exact head_trimChars _ c hc
  last c hc := by
    rw [trim, String.toList_ofList, trimChars] at hc
    exact last_trimEndChars _ c hc

/-- Trimming leaves a text without blanks at its ends as it is. -/
lemma Trimmed.trim_eq (h : Trimmed s) : trim s = s := by
  rw [trim, trimChars, trimStartChars_eq_self h.head, trimEndChars_eq_self h.last,
    String.ofList_toList]

/-! ### First words -/

/-- A line is made of a word and a rest without blanks at its ends. There may be blanks around them,
and if the rest is not empty there are some between the two. -/
structure Splits (line word rest : String) : Prop where
  parts : ∃ before gap behind, line = before ++ word ++ gap ++ rest ++ behind ∧
    isAllBlank before = true ∧ isAllBlank gap = true ∧ isAllBlank behind = true ∧
      (rest ≠ "" → gap ≠ "")
  isWord : Word word
  trimmed : Trimmed rest

/-- A run of blanks is a blank text. -/
lemma isAllBlank_ofList {gap : List Char} (h : ∀ c ∈ gap, isBlank c = true) :
    isAllBlank (String.ofList gap) = true := by
  rw [isAllBlank_iff, String.toList_ofList]
  exact h

/-- The first word of a line and the rest are what the line is made of. -/
lemma splits_of_splitFirst (h : splitFirst line = some (word, rest)) : Splits line word rest := by
  have hblank : ¬ ∀ c ∈ line.toList, isBlank c = true := by
    intro hblank
    rw [splitFirst_eq_none_iff.mpr (isAllBlank_iff.mpr hblank)] at h
    cases h
  obtain ⟨before, letters, tail, hline, hbefore, hletters, hne, htail⟩ := exists_word hblank
  rw [splitFirst, hline, splitFirstChars_append hbefore hletters hne htail, Option.map_some,
    Option.some.injEq, Prod.mk.injEq] at h
  obtain ⟨rfl, rfl⟩ := h
  obtain ⟨gap, behind, hgap, hbehind, hparts, hempty⟩ := exists_gap htail
  refine ⟨⟨String.ofList before, String.ofList gap, String.ofList behind, ?_,
    isAllBlank_ofList hbefore, isAllBlank_ofList hgap, isAllBlank_ofList hbehind, ?_⟩, ⟨?_, ?_⟩, ?_⟩
  · rw [← String.toList_inj, hline]
    simpa using hparts
  · intro hrest hnone
    exact hrest (String.ofList_eq_empty_iff.mpr (hempty (String.ofList_eq_empty_iff.mp hnone)))
  · rwa [String.toList_ofList]
  · exact fun hnone => hne (String.ofList_eq_empty_iff.mp hnone)
  · have htrimmed := trimmed_trim (String.ofList tail)
    rwa [trim, String.toList_ofList] at htrimmed

/-- Blanks around a line do not show in its split. -/
lemma splitFirst_around {before behind : String} (hbefore : isAllBlank before = true)
    (hbehind : isAllBlank behind = true) (line : String) :
    splitFirst (before ++ line ++ behind) = splitFirst line := by
  rw [splitFirst, String.toList_append, String.toList_append, List.append_assoc,
    splitFirstChars_around (isAllBlank_iff.mp hbefore) (isAllBlank_iff.mp hbehind), splitFirst]

/-- What a line is made of is its first word and the rest. -/
lemma Splits.splitFirst_eq (h : Splits line word rest) : splitFirst line = some (word, rest) := by
  obtain ⟨⟨before, gap, behind, rfl, hbefore, hgap, hbehind, hrest⟩, hword, htrimmed⟩ := h
  have hletters : hasBlank word = false := hasBlank_eq_false_iff.mpr hword.letters
  have hinner : splitFirst ("" ++ word ++ gap ++ rest) = some (word, trim rest) := by
    refine splitFirst_append rfl hletters hword.ne_empty hgap fun hempty => ?_
    by_contra hne
    exact hrest hne hempty
  rw [htrimmed.trim_eq, String.empty_append] at hinner
  have hline : before ++ word ++ gap ++ rest ++ behind
      = before ++ (word ++ gap ++ rest) ++ behind := by
    simp only [String.append_assoc]
  rw [hline, splitFirst_around hbefore hbehind, hinner]

/-- A line is split into the word and the rest that it is made of. -/
lemma splitFirst_eq_some_iff : splitFirst line = some (word, rest) ↔ Splits line word rest :=
  ⟨splits_of_splitFirst, Splits.splitFirst_eq⟩

/-- A word and a rest with a space between them are split into the two again. -/
lemma Splits.join (h : Splits line word rest) : Splits (word ++ " " ++ rest) word rest where
  parts := by
    refine ⟨"", " ", "", ?_, rfl, by decide, rfl, fun _ => by decide⟩
    rw [String.empty_append, String.append_empty]
  isWord := h.isWord
  trimmed := h.trimmed

/-- **The split of a line**: a line has no first word exactly if all its characters are blank.
Otherwise it is made of a word and a rest in one way only, and it is split into these two.

So the words of a line are its first word and those of the rest, a line is split as its trimmed form
is, and a first word and a rest that are put together with a space between them are split again. -/
theorem splitFirst_unique (line : String) :
    (splitFirst line = none ↔ ∀ c ∈ line.toList, isBlank c = true) ∧
    (∀ word rest, splitFirst line = some (word, rest) ↔ Splits line word rest) ∧
    ((∃ c ∈ line.toList, isBlank c = false) →
      ∃! split : String × String, Splits line split.1 split.2) ∧
    splitFirst (trim line) = splitFirst line ∧
    ∀ word rest, splitFirst line = some (word, rest) →
      words line = word :: words rest ∧
        splitFirst (word ++ " " ++ rest) = some (word, rest) := by
  refine ⟨?_, fun word rest => splitFirst_eq_some_iff, fun hsome => ?_, splitFirst_trim line,
    fun word rest h => ⟨words_of_splitFirst h, (splitFirst_eq_some_iff.mp h).join.splitFirst_eq⟩⟩
  · rw [splitFirst_eq_none_iff, isAllBlank_iff]
  · obtain ⟨word, rest, hsplit⟩ := exists_splitFirst (isAllBlank_eq_false_iff.mpr hsome)
    refine ⟨(word, rest), splitFirst_eq_some_iff.mp hsplit, fun other hother => ?_⟩
    rw [hother.splitFirst_eq] at hsplit
    exact Option.some.inj hsplit

/-- A tab, an ideographic space, two spaces and a no-break space: those inside the rest are kept. -/
theorem mixedBlanks_split :
    splitFirst "\tmtu\u3000eth0  1500\u00A0" = some ("mtu", "eth0  1500") ∧
      Splits "\tmtu\u3000eth0  1500\u00A0" "mtu" "eth0  1500" ∧
        words "\tmtu\u3000eth0  1500\u00A0" = "mtu" :: words "eth0  1500" ∧
          splitFirst "mtu eth0  1500" = some ("mtu", "eth0  1500") := by
  have hsplit : splitFirst "\tmtu\u3000eth0  1500\u00A0" = some ("mtu", "eth0  1500") := by decide
  obtain ⟨-, hiff, -, -, hrest⟩ := splitFirst_unique "\tmtu\u3000eth0  1500\u00A0"
  obtain ⟨hwords, hjoin⟩ := hrest _ _ hsplit
  exact ⟨hsplit, (hiff _ _).mp hsplit, hwords, hjoin⟩

end DaemonConsole.Text
