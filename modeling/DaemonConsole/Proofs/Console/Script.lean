/-
A script read line by line is the script read whole.

A script is cut at the byte of a line feed before its lines are decoded. This byte stands in no form
of another character and ends every malformed piece, so the lines are those of the decoded text, and
what stands in one line has no part in the others.

* `lineOf`: the line of a piece of text;
* `cut_cutLines`, `cut_decode`: the pieces of a script, as bytes and decoded;
* `script_lines`: the lines of a script, whatever its bytes.
-/
import DaemonConsole.Console.Script
import DaemonConsole.Proofs.Text.Cut
import DaemonConsole.Proofs.Text.Utf8
import Mathlib.Data.List.DropRight

namespace DaemonConsole.Console

/-- A piece of text without the line feeds and carriage returns at its end. -/
def lineOf (piece : List Char) : String :=
  String.ofList (piece.rdropWhile fun c => c = '\n' ∨ c = '\r')

/-- The text of the line that an item holds. -/
def Item.text? : Item → Option String
  | line text _ => some text
  | failure _ => none

/-! ### Bytes -/

/-- The pieces of a script are cut behind every line feed. -/
lemma cut_cutLines (script : List UInt8) : Text.Cut 0x0A script (cutLines script) := by
  induction script with
  | nil => exact .nil
  | cons b script ih =>
      by_cases hb : b = 0x0A
      · rw [cutLines, if_pos hb, hb]
        exact .cons (x := []) List.not_mem_nil ih
      · rw [cutLines, if_neg hb]
        cases hpieces : cutLines script with
        | nil =>
            rw [hpieces] at ih
            cases ih
            exact .last (by simp) (by simpa using Ne.symm hb)
        | cons piece pieces =>
            rw [hpieces] at ih
            exact ih.push hb

/-! ### Characters -/

/-- A line feed is decoded from its byte only. -/
lemma feed_not_mem_decode {piece : List UInt8} (h : 0x0A ∉ piece) : '\n' ∉ Utf8.decode piece := by
  intro hfeed
  have hform : String.utf8EncodeChar '\n' = [0x0A] := by decide
  have hsub := (Utf8.lossy_iff.mpr rfl).form_subset hfeed (by decide)
  rw [hform] at hsub
  exact h (hsub List.mem_cons_self)

/-- The decoded pieces are the pieces of the decoded text. -/
lemma cut_decode {bytes : List UInt8} {pieces : List (List UInt8)}
    (h : Text.Cut 0x0A bytes pieces) :
    Text.Cut '\n' (Utf8.decode bytes) (pieces.map Utf8.decode) := by
  have hfeed (front after : List UInt8) :
      Utf8.decode (front ++ 0x0A :: after) = Utf8.decode front ++ '\n' :: Utf8.decode after :=
    Utf8.decode_append_ascii (by decide) front after
  induction h with
  | nil => exact .nil
  | @last x hne hx =>
      have hlossy : Utf8.Lossy x (Utf8.decode x) := Utf8.lossy_iff.mpr rfl
      exact .last (fun hnil => hne (hnil ▸ hlossy).eq_nil) (feed_not_mem_decode hx)
  | @cons x rest pieces hx _ ih =>
      rw [List.map_cons, hfeed, hfeed]
      exact .cons (feed_not_mem_decode hx) ih

/-- Behind the first character the end is trimmed first. -/
lemma rdropWhile_cons {α : Type} (p : α → Bool) (x : α) (xs : List α) :
    (x :: xs).rdropWhile p =
      if xs.rdropWhile p = [] then if p x then [] else [x] else x :: xs.rdropWhile p := by
  rw [List.rdropWhile, List.rdropWhile, List.reverse_cons, List.dropWhile_append]
  cases hrest : xs.reverse.dropWhile p with
  | nil => cases hx : p x <;> simp [hx]
  | cons y ys => simp

/-- The characters at the end are dropped as long as they end a line. -/
lemma trimLineEnd_eq (cs : List Char) :
    trimLineEnd cs = cs.rdropWhile fun c => c = '\n' ∨ c = '\r' := by
  induction cs with
  | nil => rfl
  | cons c cs ih =>
      rw [rdropWhile_cons, ← ih, trimLineEnd]
      cases trimLineEnd cs with
      | nil => simp
      | cons d ds => simp

/-- The line of bytes is that of their characters. -/
lemma scriptLine_eq (piece : List UInt8) : scriptLine piece = lineOf (Utf8.decode piece) := by
  rw [scriptLine, lineOf, trimLineEnd_eq]

/-- The lines of bytes that are cut are those of the pieces. -/
lemma linesOfScript_eq {script : List UInt8} {pieces : List (List UInt8)}
    (h : Text.Cut 0x0A script pieces) : linesOfScript script = pieces.map scriptLine := by
  rw [linesOfScript, (cut_cutLines script).unique h]

/-- The line of a piece of text holds no line feed. -/
lemma feed_not_mem_lineOf {text : List Char} {pieces : List (List Char)}
    (h : Text.Cut '\n' text pieces) {piece : List Char} (hpiece : piece ∈ pieces) :
    '\n' ∉ (lineOf piece).toList := by
  intro hfeed
  obtain ⟨x, hx, hend⟩ := h.piece_cases hpiece
  rw [lineOf, String.toList_ofList] at hfeed
  rcases hend with rfl | rfl
  · exact hx ((List.rdropWhile_prefix _ _).subset hfeed)
  · rw [List.rdropWhile_concat_pos _ _ _ (by decide)] at hfeed
    exact hx ((List.rdropWhile_prefix _ _).subset hfeed)

/-- **A script is read line by line as it is read whole.** The loop is given its lines, which are
those of the whole text, decoded with malformed pieces replaced, cut behind every line feed and
trimmed at the end. So no line holds a line feed, bytes behind a line feed bring lines of their own,
and bytes without one change the line that they stand in and no other. -/
theorem script_lines (script : List UInt8) :
    (itemsOfScript script).map Item.text? = (linesOfScript script).map some ∧
    (∀ lines, linesOfScript script = lines ↔
      ∃ text pieces, Utf8.Lossy script text ∧ Text.Cut '\n' text pieces ∧
        lines = pieces.map lineOf) ∧
    (∀ line ∈ linesOfScript script, '\n' ∉ line.toList) ∧
    (∀ after, linesOfScript (script ++ 0x0A :: after)
      = linesOfScript (script ++ [0x0A]) ++ linesOfScript after) ∧
    ∀ post, ∃ before head tail after, before.length = script.count 0x0A ∧
      ∀ x, x ≠ [] → 0x0A ∉ x →
        linesOfScript (script ++ x ++ post) = before ++ scriptLine (head ++ x ++ tail) :: after := by
  have hdecoded := cut_decode (cut_cutLines script)
  have hlines : linesOfScript script = ((cutLines script).map Utf8.decode).map lineOf := by
    rw [linesOfScript, List.map_map]
    exact List.map_congr_left fun piece _ => scriptLine_eq piece
  refine ⟨?_, fun lines => ⟨?_, ?_⟩, ?_, fun after => ?_, fun post => ?_⟩
  · rw [itemsOfScript, linesOfScript, List.map_map, List.map_map]
    rfl
  · rintro rfl
    exact ⟨_, _, Utf8.lossy_iff.mpr rfl, hdecoded, hlines⟩
  · rintro ⟨text, pieces, htext, hpieces, rfl⟩
    rw [Utf8.lossy_iff.mp htext] at hpieces
    rw [hlines, hdecoded.unique hpieces]
  · intro line hline
    rw [hlines] at hline
    obtain ⟨piece, hpiece, rfl⟩ := List.mem_map.mp hline
    exact feed_not_mem_lineOf hdecoded hpiece
  · have hclosed := cut_cutLines (script ++ [0x0A])
    have happend := hclosed.append (cut_cutLines after) (by simp)
    rw [List.append_assoc, List.singleton_append] at happend
    rw [linesOfScript_eq happend, List.map_append]
    rfl
  · obtain ⟨before, head, tail, after, hlength, haround⟩ :=
      (cut_cutLines script).around (cut_cutLines post)
    refine ⟨before.map scriptLine, head, tail, after.map scriptLine, ?_, fun x hne hx => ?_⟩
    · rw [List.length_map, hlength]
    · rw [linesOfScript_eq (haround x hne hx), List.map_append, List.map_cons]

/-- A form that is cut short by a line feed is one malformed piece of its line. -/
example : linesOfScript [0x61, 0xE2, 0x82, 0x0A, 0x62] = ["a\uFFFD", "b"] := by decide

end DaemonConsole.Console
