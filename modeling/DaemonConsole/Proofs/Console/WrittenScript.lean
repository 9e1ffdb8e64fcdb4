/-
A script gives the lines that it was written from.

A writer puts the lines one behind the other, each with a line feed, or a carriage return and a line
feed, behind it; the last line may stand without an end if it is not empty. The bytes of this text are
read as the same lines, whatever characters they hold.

* `LineEnd`, `Written`: the ends of lines, and what a writer has put together;
* `Plain`: a line that is told apart from its end;
* `Written.cut`: the pieces of the text are the lines with their ends;
* `written_read`: its lines, and what reading them echoes.
-/
import DaemonConsole.Proofs.Console.Script
import DaemonConsole.Proofs.Text.Encoding

namespace DaemonConsole.Console

/-! ### Writing -/

/-- The ends of a line. -/
inductive LineEnd where
  | feed
  | returnFeed
  deriving DecidableEq, Repr

/-- The characters of an end before its line feed. -/
def LineEnd.front : LineEnd → List Char
  | feed => []
  | returnFeed => ['\r']

/-- The text of an end. -/
def LineEnd.text : LineEnd → String
  | feed => "\n"
  | returnFeed => "\r\n"

lemma LineEnd.toList_text (e : LineEnd) : e.text.toList = e.front ++ ['\n'] := by
  cases e <;> rfl

/-- Lines with their ends, and maybe a last one without. -/
structure Written where
  ended : List (String × LineEnd)
  unended : Option String
  deriving DecidableEq, Repr

namespace Written

/-- The lines that are written. -/
def lines (w : Written) : List String :=
  w.ended.map (·.1) ++ w.unended.toList

/-- The text that is written. -/
def text (w : Written) : String :=
  String.join (w.ended.map fun l => l.1 ++ l.2.text) ++ w.unended.getD ""

/-- The characters of each line with its end. -/
def pieces (w : Written) : List (List Char) :=
  w.ended.map (fun l => l.1.toList ++ l.2.text.toList) ++ w.unended.toList.map String.toList

end Written

/-- A line that holds no line feed and does not end in a carriage return. -/
structure Plain (line : String) : Prop where
  no_feed : '\n' ∉ line.toList
  no_return : line.toList.getLast? ≠ some '\r'

/-! ### Reading -/

variable {line : String}

/-- Nothing is dropped at the end of a plain line. -/
lemma Plain.rdropWhile_eq (h : Plain line) :
    line.toList.rdropWhile (fun c => c = '\n' ∨ c = '\r') = line.toList := by
  refine List.rdropWhile_eq_self_iff.mpr fun hne => ?_
  have hlast := List.getLast?_eq_some_getLast hne
  have hfeed : line.toList.getLast hne ≠ '\n' := fun heq => h.no_feed (heq ▸ List.getLast_mem hne)
  have hreturn : line.toList.getLast hne ≠ '\r' := fun heq => h.no_return (heq ▸ hlast)
  simp [hfeed, hreturn]

/-- A plain line without an end is read as it is, -/
lemma Plain.lineOf_eq (h : Plain line) : lineOf line.toList = line := by
  rw [lineOf, h.rdropWhile_eq, String.ofList_toList]

/-- and so is one with an end. -/
lemma Plain.lineOf_ended (h : Plain line) (e : LineEnd) :
    lineOf (line.toList ++ e.text.toList) = line := by
  rw [← h.lineOf_eq, lineOf, lineOf, String.toList_ofList, h.rdropWhile_eq, e.toList_text,
    ← List.append_assoc, List.rdropWhile_concat_pos _ _ _ (by decide)]
  cases e with
  | feed => rw [LineEnd.front, List.append_nil, h.rdropWhile_eq]
  | returnFeed =>
      rw [LineEnd.front, List.rdropWhile_concat_pos _ _ _ (by decide), h.rdropWhile_eq]

/-- The lines with their ends are the pieces of the text. -/
lemma Written.cut {w : Written} (hlines : ∀ line ∈ w.lines, Plain line)
    (hlast : w.unended ≠ some "") : Text.Cut '\n' w.text.toList w.pieces := by
  obtain ⟨ended, unended⟩ := w
  induction ended with
  | nil =>
      cases unended with
      | none => exact .nil
      | some line =>
          have hne : line.toList ≠ [] := fun hnil =>
            hlast (congrArg some (String.toList_eq_nil_iff.mp hnil))
          have hplain : Plain line := hlines line (List.mem_singleton_self line)
          simpa [text, pieces] using Text.Cut.last hne hplain.no_feed
  | cons l ended ih =>
      obtain ⟨hplain, hrest⟩ := List.forall_mem_cons.mp hlines
      have hfront : '\n' ∉ l.1.toList ++ l.2.front := by
        refine List.not_mem_append hplain.no_feed ?_
        cases l.2 <;> decide
      have hcut := Text.Cut.cons hfront (ih hrest hlast)
      simpa [text, pieces, LineEnd.toList_text, String.join_cons] using hcut

/-- The pieces are read as the lines. -/
lemma Written.map_lineOf_pieces {w : Written} (hlines : ∀ line ∈ w.lines, Plain line) :
    w.pieces.map lineOf = w.lines := by
  rw [pieces, lines, List.map_append, List.map_map, List.map_map]
  refine congrArg₂ (· ++ ·) (List.map_congr_left fun l hl => ?_) ?_
  · exact (hlines l.1 (List.mem_append_left _ (List.mem_map_of_mem hl))).lineOf_ended l.2
  · refine (List.map_congr_left fun line hline => ?_).trans (List.map_id _)
    exact (hlines line (List.mem_append_right _ hline)).lineOf_eq

/-- Of lines that are read, each is echoed behind the prompt. -/
lemma echoOf_lines (prompt : String) (lines : List String) :
    echoOf prompt (lines.map (Item.line · true))
      = String.join (lines.map fun line => prompt ++ line ++ "\n") := by
  induction lines with
  | nil => rfl
  | cons line lines ih =>
      rw [List.map_cons, List.map_cons, String.join_cons, ← ih, echoOf, List.flatMap_cons,
        List.map_append, String.join_append, ← echoOf]
      simp [Item.reading, Event.outputText, Event.reports, String.join_cons]

/-- **A script is read as it was written**: of the bytes of a text that is put together from plain
lines, each with an end of its own choice and the last one perhaps without, the source gives these
lines, all of them as well-formed text, and then no more. What a source that echoes writes for them,
read as a run reads them, is each of them behind the prompt. -/
theorem written_read (w : Written) (hlines : ∀ line ∈ w.lines, Plain line)
    (hlast : w.unended ≠ some "") :
    itemsOfScript (Utf8.encode w.text) = w.lines.map (Item.line · true) ∧
      linesOfScript (Utf8.encode w.text) = w.lines ∧
      ∀ prompt, echoOf prompt (itemsOfScript (Utf8.encode w.text))
        = String.join (w.lines.map fun line => prompt ++ line ++ "\n") := by
  -- there is one way to cut the bytes, so the pieces that are read are those that were written
  have hcut := Utf8.cut_forms (Written.cut hlines hlast)
  rw [← Utf8.encode_eq] at hcut
  have hpiece (piece : List Char) : scriptLine (Utf8.forms piece) = lineOf piece := by
    rw [scriptLine_eq, Utf8.decode_forms]
  have hread : linesOfScript (Utf8.encode w.text) = w.lines := by
    rw [linesOfScript_eq hcut, List.map_map, ← Written.map_lineOf_pieces hlines]
    exact List.map_congr_left fun piece _ => hpiece piece
  have hitems : itemsOfScript (Utf8.encode w.text) = w.lines.map (Item.line · true) := by
    rw [itemsOfScript, (cut_cutLines _).unique hcut, ← Written.map_lineOf_pieces hlines,
      List.map_map, List.map_map]
    refine List.map_congr_left fun piece _ => ?_
    simp only [Function.comp_apply, hpiece, Utf8.isWellFormed_forms]
  exact ⟨hitems, hread, fun prompt => hitems ▸ echoOf_lines prompt w.lines⟩

/-- An empty line, a line with a carriage return inside and one of several scripts, with both ends and
without one. -/
def mixedLines : Written where
  ended := [("", .feed), ("a\rb", .returnFeed), ("жду 日本", .feed)]
  unended := some "exit"

/-- These lines are read back. -/
theorem mixedLines_read :
    (∀ line ∈ mixedLines.lines, Plain line) ∧ mixedLines.unended ≠ some "" ∧
      linesOfScript (Utf8.encode "\na\rb\r\nжду 日本\nexit") = ["", "a\rb", "жду 日本", "exit"] := by
  have hlines : ∀ line ∈ mixedLines.lines, Plain line := by
    have hall : mixedLines.lines = ["", "a\rb", "жду 日本", "exit"] := rfl
    simp only [hall, List.forall_mem_cons, List.not_mem_nil, false_imp_iff, implies_true, and_true]
    exact ⟨⟨by decide, by decide⟩, ⟨by decide, by decide⟩, ⟨by decide, by decide⟩,
      ⟨by decide, by decide⟩⟩
  have hlast : mixedLines.unended ≠ some "" := by decide
  exact ⟨hlines, hlast, (written_read mixedLines hlines hlast).2.1⟩

end DaemonConsole.Console
