/-
The transcript of a script.

A script that is echoed leaves on the standard output what a terminal would show: each line behind
the prompt it was typed at, and then what the line puts out. The lines are handed to the session as
they stand, since the blanks around a line do not show in what the session does with it.

* `linesRead`: the lines up to the first with which the session leaves;
* `Outcome.outputLines`, `Outcome.errorLines`: what an outcome writes to the two streams;
* `Transcribed`: a run that writes what its lines lead to; `loop_transcribed`: every run of the loop
  over lines is one;
* `script_transcript`: both streams of a script, with and without its echo.
-/
import DaemonConsole.Console.Script
import DaemonConsole.Proofs.Console.Streams
import DaemonConsole.Proofs.Text.Spacing

namespace DaemonConsole

/-! ### What an outcome writes -/

/-- The text of an output. -/
def Report.output? : Report → Option String
  | output text => some text
  | _ => none

/-- The outputs of an outcome, each with a line feed behind it. -/
def Outcome.outputLines (o : Outcome) : String :=
  String.join ((o.reports.filterMap Report.output?).map fun text => text ++ "\n")

/-- The other reports of an outcome, each with a line feed behind it. -/
def Outcome.errorLines (o : Outcome) : String :=
  String.join ((o.reports.filter Report.isError).map fun r => r.message ++ "\n")

/-- As text, the reports of an outcome write its outputs on the standard output. -/
lemma Outcome.join_outputText (o : Outcome) :
    String.join (o.reports.map (Report.outputText .text)) = o.outputLines := by
  rw [outputLines]
  induction o.reports with
  | nil => rfl
  | cons r reports ih =>
      rw [List.map_cons, String.join_cons, ih]
      cases r with
      | output text =>
          have htext : Report.output? (.output text) = some text := rfl
          rw [List.filterMap_cons_some htext, List.map_cons, String.join_cons]
          rfl
      | _ =>
          rw [List.filterMap_cons_none rfl]
          exact String.empty_append

/-- As text, the reports of an outcome write the others on the error stream. -/
lemma Outcome.join_errorText (o : Outcome) :
    String.join (o.reports.map (Report.errorText .text)) = o.errorLines := by
  rw [errorLines]
  induction o.reports with
  | nil => rfl
  | cons r reports ih =>
      rw [List.map_cons, String.join_cons, ih, List.filter_cons, Report.errorText]
      cases r.isError <;> simp

namespace Session

variable {σ : Type} [ControlChannel σ]

/-- A line and its trimmed form are handled alike. -/
lemma submit_trim (s : Session σ) (line : String) : s.submit (Text.trim line) = s.submit line := by
  rw [submit, submit, interpret, interpret, Text.splitFirst_trim]

/-- A blank line leads to nothing. -/
lemma submit_blank (s : Session σ) {line : String} (h : Text.trim line = "") :
    s.submit line = (.quiet, s) := by
  rw [← s.submit_trim, h]
  exact (Step.blank rfl).submit_eq

end Session

namespace Console

open Session

variable {σ : Type} [ControlChannel σ]

/-! ### The lines that are read -/

/-- Whether a session leaves with a line, behind others that it has handled. -/
def leavesWith (s : Session σ) (p : List String × String) : Bool :=
  ((s.after p.1).submit p.2).1.flow = .leave

/-- The lines that are read: those up to the first with which the session leaves, and this one. -/
def linesRead (s : Session σ) (lines : List String) : List String :=
  lines.take ((withPast lines).findIdx (leavesWith s) + 1)

variable {s : Session σ} {line : String} (lines : List String)

/-- A line with which the session leaves is the last one that is read. -/
lemma linesRead_of_leave (h : (s.submit line).1.flow = .leave) :
    linesRead s (line :: lines) = [line] := by
  have hleaves : leavesWith s ([], line) = true := decide_eq_true h
  rw [linesRead, withPast_cons, List.findIdx_cons, hleaves]
  rfl

/-- Behind any other line the session after it goes on. -/
lemma linesRead_of_proceed (h : (s.submit line).1.flow = .proceed) :
    linesRead s (line :: lines) = line :: linesRead (s.submit line).2 lines := by
  have hleaves : leavesWith s ([], line) = false := by
    rw [leavesWith, after_nil, h]
    rfl
  have hcomp : leavesWith s ∘ (fun p : List String × String => (line :: p.1, p.2))
      = leavesWith (s.submit line).2 := rfl
  rw [linesRead, withPast_cons, List.findIdx_cons, hleaves, cond_false, List.findIdx_map, hcomp,
    List.take_succ_cons, linesRead]

/-! ### The streams of a run over lines -/

/-- What a line leaves on the standard output: its echo, if there is one, and its outputs. -/
def pieceOf (echo : Bool) (s : Session σ) (line : String) : String :=
  (if echo then s.prompt ++ line ++ "\n" else "") ++ (s.submit line).1.outputLines

/-- A run that reads some lines off the items of a source and writes what they lead to. -/
structure Transcribed (finish : Except ConsoleError Unit) (s : Session σ) (items : List Item)
    (lines : List String) (r : Run σ) : Prop where
  output_eq : ∀ echo, r.outputText .text echo
    = String.join ((withPast lines).map fun p => pieceOf echo (s.after p.1) p.2)
  error_eq : r.errorText .text = String.join ((s.outcomes lines).map Outcome.errorLines)
  session_eq : r.session = s.after lines
  unread_eq : r.unread = items.drop lines.length
  result_eq : r.result = finish

variable {lines} {finish : Except ConsoleError Unit} {items : List Item} {r : Run σ}

omit [ControlChannel σ] in
/-- Events go before a run one after another. -/
lemma Run.after_append (r : Run σ) (xs ys : List Event) :
    r.after (xs ++ ys) = (r.after ys).after xs := by
  rw [Run.after, Run.after, Run.after, List.append_assoc]

/-- Events that write nothing may go before a run. -/
lemma Transcribed.after {events : List Event}
    (houtput : ∀ echo, String.join (events.map (Event.outputText .text echo)) = "")
    (herror : String.join (events.map (Event.errorText .text)) = "")
    (h : Transcribed finish s items lines r) : Transcribed finish s items lines (r.after events) := by
  refine ⟨fun echo => ?_, ?_, h.session_eq, h.unread_eq, h.result_eq⟩
  · rw [← h.output_eq, Run.outputText, Run.after, List.map_append, String.join_append, houtput,
      String.empty_append, Run.outputText]
  · rw [← h.error_eq, Run.errorText, Run.after, List.map_append, String.join_append, herror,
      String.empty_append, Run.errorText]

/-- Behind the line with which a session leaves nothing is read or written. -/
lemma transcribed_left (finish : Except ConsoleError Unit) (s : Session σ) (items : List Item)
    (queue : List Interrupt) :
    Transcribed finish s items [] ⟨[.left, .finished], finish, s, items, queue⟩ :=
  ⟨fun _ => rfl, rfl, rfl, rfl, rfl⟩

/-- The run of a line, before the run of the others. -/
lemma Transcribed.cons (item : Item) {events : List Event}
    (houtput : ∀ echo, String.join (events.map (Event.outputText .text echo)) = pieceOf echo s line)
    (herror : String.join (events.map (Event.errorText .text)) = (s.submit line).1.errorLines)
    (h : Transcribed finish (s.submit line).2 items lines r) :
    Transcribed finish s (item :: items) (line :: lines) (r.after events) := by
  refine ⟨fun echo => ?_, ?_, h.session_eq, h.unread_eq, h.result_eq⟩
  · have hpieces : (withPast (line :: lines)).map (fun p => pieceOf echo (s.after p.1) p.2)
        = pieceOf echo s line
          :: (withPast lines).map fun p => pieceOf echo ((s.submit line).2.after p.1) p.2 := by
      rw [withPast_cons, List.map_cons, List.map_map]
      rfl
    rw [hpieces, String.join_cons, ← houtput, ← h.output_eq, Run.outputText, Run.after,
      List.map_append, String.join_append, Run.outputText]
  · rw [outcomes_cons, List.map_cons, String.join_cons, ← herror, ← h.error_eq, Run.errorText,
      Run.after, List.map_append, String.join_append, Run.errorText]

/-- A blank line is echoed, and nothing else is written. -/
lemma join_outputText_blank (wellFormed : Bool) (hblank : Text.trim line = "") (echo : Bool) :
    String.join ([Event.asked s.prompt, .read s.prompt line wellFormed].map
      (Event.outputText .text echo)) = pieceOf echo s line := by
  rw [pieceOf, s.submit_blank hblank]
  simp [Event.outputText, Event.reports, Outcome.outputLines, Outcome.quiet, String.join_cons]

/-- A line that is not blank is echoed, and its reports are written. -/
lemma join_outputText_line (wellFormed echo : Bool) :
    String.join ((eventsOfLine s [] line wellFormed).map (Event.outputText .text echo))
      = pieceOf echo s line := by
  rw [pieceOf, eventsOfLine, interruptsDuring_nil, s.submit_trim]
  simp [Event.outputText, Event.reports, Outcome.join_outputText, String.join_cons]

lemma join_errorText_line (wellFormed : Bool) :
    String.join ((eventsOfLine s [] line wellFormed).map (Event.errorText .text))
      = (s.submit line).1.errorLines := by
  rw [eventsOfLine, interruptsDuring_nil, s.submit_trim]
  simp [Event.errorText, Event.reports, Outcome.join_errorText, String.join_cons]

/-- The run of lines is a transcript of those that are read. -/
lemma loop_transcribed (finish : Except ConsoleError Unit) (s : Session σ)
    (xs : List (String × Bool)) :
    let items := xs.map fun x => Item.line x.1 x.2
    Transcribed finish s items (linesRead s (xs.map (·.1))) (loop finish s [] items) := by
  induction xs generalizing s with
  | nil => exact ⟨fun _ => rfl, rfl, rfl, rfl, rfl⟩
  | cons x xs ih =>
      obtain ⟨line, wellFormed⟩ := x
      simp only [List.map_cons]
      by_cases hblank : Text.trim line = ""
      · have hquiet := s.submit_blank hblank
        have hproceed : (s.submit line).1.flow = .proceed := by rw [hquiet]; rfl
        rw [loop_blank _ wellFormed finish [] hblank, linesRead_of_proceed _ hproceed]
        refine .cons _ (join_outputText_blank wellFormed hblank) ?_ ?_
        · rw [hquiet]
          rfl
        · rw [hquiet]
          exact ih s
      · -- the loop hands on the trimmed line, which the session handles as the line itself
        cases hflow : (s.submit line).1.flow with
        | leave =>
            rw [linesRead_of_leave _ hflow]
            rw [← s.submit_trim] at hflow
            rw [loop_leave _ wellFormed finish [] hblank hflow, s.submit_trim]
            have hleft := transcribed_left finish (s.submit line).2
              (xs.map fun x => Item.line x.1 x.2) (interruptsDuring s (Text.trim line) []).2
            have hline := Transcribed.cons (.line line wellFormed)
              (join_outputText_line wellFormed) (join_errorText_line wellFormed) hleft
            exact hline
        | proceed =>
            rw [linesRead_of_proceed _ hflow]
            rw [← s.submit_trim] at hflow
            rw [loop_proceed _ wellFormed finish [] hblank hflow, s.submit_trim,
              interruptsDuring_nil, Run.after_append]
            refine .cons _ (join_outputText_line wellFormed) (join_errorText_line wellFormed) ?_
            exact .after (fun _ => rfl) rfl (ih _)

/-- **The transcript of a script**, without interrupts. The lines that are read are those up to the
first with which the session leaves. With an echo the standard output shows each of them behind the
prompt that the lines before it leave, and then its outputs; without one it shows the outputs alone.
Everything else is the same with and without an echo: the error stream shows the other reports, the
items behind the last line are left unread, the run succeeds, and it ends in the session, and so in
the channel with its record, that these lines leave. -/
theorem script_transcript (s : Session σ) (script : List UInt8) :
    let r := run s (itemsOfScript script) [] (.ok ())
    let lines := linesRead s (linesOfScript script)
    r.outputText .text true = String.join ((withPast lines).map fun p =>
        (s.after p.1).prompt ++ p.2 ++ "\n" ++ ((s.after p.1).submit p.2).1.outputLines) ∧
      r.outputText .text false = String.join ((withPast lines).map fun p =>
        ((s.after p.1).submit p.2).1.outputLines) ∧
      r.errorText .text = String.join ((s.outcomes lines).map Outcome.errorLines) ∧
      r.unread = (itemsOfScript script).drop lines.length ∧
      r.result = .ok () ∧
      r.session = s.after lines := by
  intro r lines
  have hloop := loop_transcribed (.ok ()) s
    ((cutLines script).map fun piece => (scriptLine piece, Utf8.isWellFormed piece))
  simp only [List.map_map] at hloop
  have hrun : Transcribed (.ok ()) s (itemsOfScript script) lines r :=
    Transcribed.after (fun _ => rfl) rfl hloop
  refine ⟨hrun.output_eq true, ?_, hrun.error_eq, hrun.unread_eq, hrun.result_eq, hrun.session_eq⟩
  rw [hrun.output_eq false]
  simp only [pieceOf, Bool.false_eq_true, if_false, String.empty_append]

/-- A blank line is echoed like any other, and the line that leaves is the last one. -/
example : (run (start Menu.empty Preset.empty "edge")
      (itemsOfScript [0x0A, 0x65, 0x78, 0x69, 0x74, 0x0D, 0x0A, 0x78]) [] (.ok ())).outputText
        .text true = "edge# \nedge# exit\n" := by decide

end Console

end DaemonConsole
