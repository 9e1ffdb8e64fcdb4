/-
Texts that are put together are cut into the same pieces again.

Words with blanks between them are the words of the text, and lines with line feeds between them are
its lines. The pieces must not hold what they are cut at.

* `Text.Word`: a text that is one word;
* `Text.words_gap`: a word with blanks behind it is the first of the words;
* `Text.lines`: the pieces of a text between line feeds;
* `Text.lines_joinLines`: the lines of joined lines.
-/
import DaemonConsole.Proofs.Text.Split
import Mathlib.Tactic.Lemma

namespace DaemonConsole.Text

/-! ### Words -/

/-- Blanks at the start hold no word. -/
lemma wordsOfChars_blank {gap : List Char} (hgap : ∀ c ∈ gap, isBlank c = true)
    (rest : List Char) : wordsOfChars (gap ++ rest) = wordsOfChars rest := by
  induction gap with
  | nil => rfl
  | cons c gap ih =>
      have hskip : ∀ cs, wordsOfChars (c :: cs) = wordsOfChars cs := fun cs => by
        cases cs <;> simp [wordsOfChars, hgap c List.mem_cons_self]
      rw [List.cons_append, hskip]
      exact ih fun d hd => hgap d (List.mem_cons_of_mem c hd)

/-- A run of other characters is the first word if the text does not go on with it. -/
lemma wordsOfChars_append {word rest : List Char} (hword : ∀ c ∈ word, isBlank c = false)
    (hne : word ≠ []) (hrest : rest.takeWhile (!isBlank ·) = []) :
    wordsOfChars (word ++ rest) = word :: wordsOfChars rest := by
  induction word with
  | nil => exact absurd rfl hne
  | cons c word ih =>
      have hc : isBlank c = false := hword c List.mem_cons_self
      cases word with
      | nil =>
          cases rest with
          | nil => simp [wordsOfChars, hc]
          | cons d rest =>
              have hd : isBlank d = true := by
                cases hblank : isBlank d with
                | true => rfl
                | false => simp [hblank] at hrest
              simp [wordsOfChars, hc, hd]
      | cons d word =>
          have hd : isBlank d = false := hword d (by simp)
          have htail := ih (fun e he => hword e (List.mem_cons_of_mem c he)) (by simp)
          rw [List.cons_append] at htail
          rw [List.cons_append, List.cons_append, wordsOfChars, if_neg (by simp [hc])]
          simp only [hd, Bool.false_eq_true, if_false, htail, List.modifyHead_cons]

/-- A text that is one word: it is not empty and holds no blank. -/
structure Word (w : String) : Prop where
  letters : ∀ c ∈ w.toList, isBlank c = false
  ne_empty : w ≠ ""

namespace Word

variable {w v : String}

/-- A text that is found to hold no blank is a word if it is not empty. -/
lemma of_all (h : (w.toList.all fun c => !isBlank c) = true) (hne : w ≠ "") : Word w := by
  refine ⟨fun c hc => ?_, hne⟩
  have hc' := List.all_eq_true.mp h c hc
  simpa using hc'

lemma toList_ne_nil (h : Word w) : w.toList ≠ [] :=
  fun hnil => h.ne_empty (String.toList_eq_nil_iff.mp hnil)

/-- Words put together without a blank are one word. -/
lemma append (hw : Word w) (hv : Word v) : Word (w ++ v) := by
  refine ⟨fun c hc => ?_, fun hempty => hw.ne_empty (String.append_eq_empty_iff.mp hempty).1⟩
  rw [String.toList_append] at hc
  rcases List.mem_append.mp hc with hc | hc
  · exact hw.letters c hc
  · exact hv.letters c hc

/-- A word holds no line feed. -/
lemma feed_not_mem (h : Word w) : '\n' ∉ w.toList := fun hfeed =>
  absurd (h.letters '\n' hfeed) (by decide)

/-- A word is the only one of its text. -/
lemma words_eq (h : Word w) : words w = [w] := by
  have hword : wordsOfChars (w.toList ++ []) = [w.toList] :=
    wordsOfChars_append h.letters h.toList_ne_nil rfl
  rw [List.append_nil] at hword
  simp [words, hword]

end Word

/-- A word with blanks behind it is the first of the words. -/
lemma words_gap {w gap : String} (hw : Word w) (hgap : isAllBlank gap = true) (hne : gap ≠ "")
    (rest : String) : words (w ++ (gap ++ rest)) = w :: words rest := by
  have hblanks : ∀ c ∈ gap.toList, isBlank c = true := isAllBlank_iff.mp hgap
  have hstop : (gap.toList ++ rest.toList).takeWhile (!isBlank ·) = [] :=
    takeWhile_blank hblanks fun hnil => absurd (String.toList_eq_nil_iff.mp hnil) hne
  rw [words, String.toList_append, String.toList_append,
    wordsOfChars_append hw.letters hw.toList_ne_nil hstop, wordsOfChars_blank hblanks,
    List.map_cons, String.ofList_toList, words]

lemma words_space {w : String} (hw : Word w) (rest : String) :
    words (w ++ (" " ++ rest)) = w :: words rest :=
  words_gap hw (by decide) (by decide) rest

/-- A padded text has spaces behind it only. -/
lemma exists_padRight_eq (width : Nat) (s : String) :
    ∃ gap, (∀ c ∈ gap.toList, c = ' ') ∧ padRight width s = s ++ gap := by
  refine ⟨String.ofList (List.replicate (width - s.length) ' '), fun c hc => ?_, rfl⟩
  rw [String.toList_ofList] at hc
  exact List.eq_of_mem_replicate hc

/-- A padded word with a space behind it is the first of the words. -/
lemma words_padRight {w : String} (hw : Word w) (width : Nat) (rest : String) :
    words (padRight width w ++ (" " ++ rest)) = w :: words rest := by
  obtain ⟨gap, hgap, hpad⟩ := exists_padRight_eq width w
  have hblank : isAllBlank (gap ++ " ") = true := by
    rw [isAllBlank, String.toList_append, List.all_append, Bool.and_eq_true]
    refine ⟨List.all_eq_true.mpr fun c hc => ?_, by decide⟩
    rw [hgap c hc]
    decide
  have hne : gap ++ " " ≠ "" := fun hempty => by
    simpa using (String.append_eq_empty_iff.mp hempty).2
  have hjoin : w ++ gap ++ (" " ++ rest) = w ++ ((gap ++ " ") ++ rest) := by
    rw [String.append_assoc, String.append_assoc]
  rw [hpad, hjoin, words_gap hw hblank hne]

/-- A padded word holds no line feed. -/
lemma Word.feed_not_mem_padRight {w : String} (hw : Word w) (width : Nat) :
    '\n' ∉ (padRight width w).toList := by
  obtain ⟨gap, hgap, hpad⟩ := exists_padRight_eq width w
  intro hfeed
  rw [hpad, String.toList_append] at hfeed
  rcases List.mem_append.mp hfeed with hfeed | hfeed
  · exact hw.feed_not_mem hfeed
  · exact absurd (hgap _ hfeed) (by decide)

/-! ### Lines -/

/-- The pieces of a text between line feeds. -/
def lines (s : String) : List String :=
  (s.toList.splitOn '\n').map String.ofList

/-- Joined lines that hold no line feeds are the lines of the text. -/
lemma lines_joinLines {ls : List String} (hne : ls ≠ []) (h : ∀ l ∈ ls, '\n' ∉ l.toList) :
    lines (joinLines ls) = ls := by
  have hpieces : (['\n'].intercalate (ls.map String.toList)).splitOn '\n'
      = ls.map String.toList := by
    refine List.splitOn_intercalate '\n' (fun l hl => ?_) (by simpa using hne)
    obtain ⟨line, hline, rfl⟩ := List.mem_map.mp hl
    exact h line hline
  have hfeed : "\n".toList = ['\n'] := rfl
  rw [lines, joinLines, String.toList_intercalate, hfeed, hpieces, List.map_map]
  simp [Function.comp_def]

end DaemonConsole.Text
