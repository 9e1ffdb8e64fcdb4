/-
What the operator and the source see of a run.

Both streams are written report by report. Without interrupts the reports are those of the outcomes,
so a run is known from the lines that it reads: where the session ends, what the streams show and
what the source is told, in order.

* `outputText_eq_reports`, `errorText_eq_reports`: the streams of a run as its reports;
* `loop_uninterrupted`: no interrupt is told when there is none to take;
* `run_eq_fold`: a run without interrupts is the fold of the session over the lines that it reads.
-/
import DaemonConsole.Channel.Preset
import DaemonConsole.Proofs.Console.Fold

namespace DaemonConsole.Console

open Session

variable {σ : Type}

/-! ### The two streams -/

/-- Texts joined piece by piece are all pieces joined. -/
lemma join_map_join {α : Type} (f : α → List String) (xs : List α) :
    String.join (xs.map fun x => String.join (f x)) = String.join (xs.flatMap f) := by
  induction xs with
  | nil => rfl
  | cons x xs ih => rw [List.map_cons, String.join_cons, ih, List.flatMap_cons, String.join_append]

/-- The standard output of a run that is not echoed is that of its reports. -/
lemma outputText_eq_reports (r : Run σ) (format : OutputFormat) :
    r.outputText format false
      = String.join ((r.events.flatMap Event.reports).map (Report.outputText format)) := by
  have hevent : Event.outputText format false
      = fun e => String.join (e.reports.map (Report.outputText format)) := by
    funext e
    cases e with
    | read prompt line wellFormed => rfl
    | _ => rfl
  rw [Run.outputText, hevent, join_map_join, List.map_flatMap]

/-- The error stream of a run is that of its reports. -/
lemma errorText_eq_reports (r : Run σ) (format : OutputFormat) :
    r.errorText format
      = String.join ((r.events.flatMap Event.reports).map (Report.errorText format)) := by
  have hevent : Event.errorText format
      = fun e => String.join (e.reports.map (Report.errorText format)) := rfl
  rw [Run.errorText, hevent, join_map_join, List.map_flatMap]

variable [ControlChannel σ]

/-! ### No interrupts -/

/-- Without interrupts to take, no time is left for one. -/
lemma interruptsDuring_nil (s : Session σ) (line : String) :
    interruptsDuring s line [] = ([], []) := by
  rw [interruptsDuring]
  split
  · split
    · rfl
    · rfl
  · rfl

lemma eventsOfLine_uninterrupted (s : Session σ) (text : String) (wellFormed : Bool) :
    ∀ e ∈ eventsOfLine s [] text wellFormed, ∀ line, e ≠ .interrupted line := by
  intro e he line
  rw [eventsOfLine, interruptsDuring_nil] at he
  rintro rfl
  simp at he

/-- Without interrupts to take, none is told. -/
lemma loop_uninterrupted (finish : Except ConsoleError Unit) (s : Session σ) (items : List Item) :
    ∀ e ∈ (loop finish s [] items).events, ∀ line, e ≠ .interrupted line := by
  induction items generalizing s with
  | nil => simp [loop]
  | cons item rest ih =>
      cases item with
      | failure cause => simp [loop, Item.reading]
      | line text wellFormed =>
          by_cases hblank : Text.trim text = ""
          · rw [loop_blank rest wellFormed finish [] hblank]
            intro e he
            rcases List.mem_append.mp he with he | he
            · rintro line rfl
              simp at he
            · exact ih s e he
          · cases hflow : (s.submit (Text.trim text)).1.flow with
            | leave =>
                rw [loop_leave rest wellFormed finish [] hblank hflow]
                intro e he
                rcases List.mem_append.mp he with he | he
                · exact eventsOfLine_uninterrupted s text wellFormed e he
                · rintro line rfl
                  simp at he
            | proceed =>
                rw [loop_proceed rest wellFormed finish [] hblank hflow, interruptsDuring_nil]
                intro e he
                rcases List.mem_append.mp he with he | he
                · rcases List.mem_append.mp he with he | he
                  · exact eventsOfLine_uninterrupted s text wellFormed e he
                  · rintro line rfl
                    simp at he
                · exact ih _ e he

/-- Events without interrupts report what their outcomes do. -/
lemma reports_of_uninterrupted {events : List Event}
    (h : ∀ e ∈ events, ∀ line, e ≠ .interrupted line) :
    events.flatMap Event.reports = (events.filterMap Event.outcome?).flatMap Outcome.reports := by
  induction events with
  | nil => rfl
  | cons e events ih =>
      obtain ⟨he, hevents⟩ := List.forall_mem_cons.mp h
      rw [List.flatMap_cons, ih hevents, List.filterMap_cons]
      cases e with
      | interrupted line => exact absurd rfl (he line)
      | dispatched action outcome => rfl
      | _ => rfl

/-! ### The run -/

/-- The source is told to finish behind the items only. -/
lemma finish_not_mem_callsFor (s : Session σ) (past : List Item) (item : Item) :
    SourceCall.finish ∉ callsFor s past item := by
  rw [callsFor]
  cases item.line? with
  | none => simp
  | some line => cases endsLoop s past item <;> simp

/-- Before the closing calls the source is not told to finish. -/
lemma finish_not_mem_calls (s : Session σ) (names : List String) (items : List Item) :
    SourceCall.finish ∉
      SourceCall.setCompletions names :: (withPast items).flatMap fun p => callsFor s p.1 p.2 := by
  intro hmem
  rcases List.mem_cons.mp hmem with h | h
  · cases h
  · obtain ⟨p, -, hp⟩ := List.mem_flatMap.mp h
    exact finish_not_mem_callsFor s p.1 p.2 hp

/-- **The console is the fold of its session**: a run without interrupts over a source that does not
echo reads the items up to the first that ends it and submits their lines. Where the session ends,
which outcomes there are, what the two streams show, what the source is told and what the run gives
is read off these lines. The source is told to finish once, as the last of all, unless reading
failed; then it is never told to. -/
theorem run_eq_fold (s : Session σ) (items : List Item) (finish : Except ConsoleError Unit)
    (format : OutputFormat) :
    let r := run s items [] finish
    let lines := linesOf (readOf s items)
    let reports := (s.outcomes lines).flatMap Outcome.reports
    let calls := SourceCall.setCompletions s.activeMenu.names ::
      (withPast (readOf s items)).flatMap fun p => callsFor s p.1 p.2
    items = readOf s items ++ r.unread ∧
      r.session = s.after lines ∧
      r.events.filterMap Event.outcome? = s.outcomes lines ∧
      r.outputText format false = String.join (reports.map (Report.outputText format)) ∧
      r.errorText format = String.join (reports.map (Report.errorText format)) ∧
      r.sourceCalls = calls ++ closingCalls s items ∧
      r.result = resultOf finish s items ∧
      ((∀ cause, endOf? s items ≠ some (.failure cause)) →
        ∃ before, r.sourceCalls = before ++ [.finish] ∧ .finish ∉ before) ∧
      ((∃ cause, endOf? s items = some (.failure cause)) → .finish ∉ r.sourceCalls) := by
  intro r lines reports calls
  have hfold := loop_folds finish s [] items
  have houtcomes : r.events.filterMap Event.outcome? = s.outcomes lines := hfold.outcomes_eq
  have hreports : r.events.flatMap Event.reports = reports := by
    have hloop := reports_of_uninterrupted (loop_uninterrupted finish s items)
    rw [hfold.outcomes_eq] at hloop
    exact hloop
  have hcalls : r.sourceCalls = calls ++ closingCalls s items := by
    have hloop := hfold.calls_eq
    exact congrArg (SourceCall.setCompletions s.activeMenu.names :: ·) hloop
  have hnone : SourceCall.finish ∉ calls := finish_not_mem_calls s _ _
  refine ⟨hfold.items_eq, hfold.session_eq, houtcomes, ?_, ?_, hcalls, hfold.result_eq, ?_, ?_⟩
  · rw [outputText_eq_reports, hreports]
  · rw [errorText_eq_reports, hreports]
  · intro hend
    rw [hcalls, closingCalls]
    cases hitem : endOf? s items with
    | none =>
        refine ⟨calls ++ [.readLine (s.after (linesOf items)).prompt], by simp, ?_⟩
        simp [hnone]
    | some item =>
        cases item with
        | line text wellFormed => exact ⟨calls, rfl, hnone⟩
        | failure cause => exact absurd hitem (hend cause)
  · rintro ⟨cause, hend⟩
    rw [hcalls, closingCalls, hend, List.append_nil]
    exact hnone

/-- Where reading fails at once, the source is not told to finish. -/
theorem finish_withheld_on_failure :
    (run (start Menu.empty (Recorder.start Preset.empty) "stackd")
      [.failure (.lineEditor "boom")] [] (.ok ())).sourceCalls.count .finish ≠ 1 := by
  decide

end DaemonConsole.Console
