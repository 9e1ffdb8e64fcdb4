/-
The console loop as the fold of a session over its input.

Which items are read, and what is done with them, is said without the loop. An item ends the loop if
reading fails there, or if its line has the session leave once the lines before it are carried out.
The items up to the first of this kind are read, their trimmed lines are submitted, and for each of
them the source is told what belongs to it.

* `linesOf`: the lines that items give the session, trimmed and without blank ones;
* `endsLoop`, `readOf`, `endOf?`: the item that ends the loop, and the items read up to it;
* `callsFor`, `closingCalls`: what the source is told about an item, and behind the last one;
* `Folds`: a run that is this fold; `loop_folds`: every run is, whatever the interrupts.
-/
import DaemonConsole.Console.Rendering
import DaemonConsole.Proofs.Past
import DaemonConsole.Proofs.Session.Step

namespace DaemonConsole.Console

open Session

/-! ### What the items say -/

/-- The line that an item gives the session: trimmed, and none for a blank line or a failure. -/
def Item.line? : Item → Option String
  | line text _ => if Text.trim text = "" then none else some (Text.trim text)
  | failure _ => none

/-- The lines that items give the session. -/
def linesOf (items : List Item) : List String :=
  items.filterMap Item.line?

@[simp] lemma linesOf_nil : linesOf [] = [] := rfl

/-- The lines of items are that of the first and those of the others. -/
lemma linesOf_cons (item : Item) (items : List Item) :
    linesOf (item :: items) = item.line?.toList ++ linesOf items := by
  rw [linesOf, List.filterMap_cons]
  cases item.line? with
  | none => rfl
  | some line => rfl

variable {σ : Type} [ControlChannel σ]

/-- Whether an item ends a loop that has read some items before it. -/
def endsLoop (s : Session σ) (past : List Item) (item : Item) : Bool :=
  match item with
  | .failure _ => true
  | .line .. =>
    item.line?.any fun line => ((s.after (linesOf past)).submit line).1.flow = .leave

/-- The items that are read: those up to the first that ends the loop, and this one. -/
def readOf (s : Session σ) (items : List Item) : List Item :=
  items.take ((withPast items).findIdx (fun p => endsLoop s p.1 p.2) + 1)

/-- The item that ends the loop. There is none if the items run out first. -/
def endOf? (s : Session σ) (items : List Item) : Option Item :=
  ((withPast items).find? fun p => endsLoop s p.1 p.2).map (·.2)

/-- What the source is told about an item, with the items read before it. -/
def callsFor (s : Session σ) (past : List Item) (item : Item) : List SourceCall :=
  let t := s.after (linesOf past)
  .readLine t.prompt ::
    match item.line? with
    | none => []
    | some line =>
      .addHistory line ::
        if endsLoop s past item then [] else [.setCompletions (t.submit line).2.activeMenu.names]

/-- What the source is told behind the items that are read: it is asked once more if they ran out,
and it is told to finish unless reading failed. -/
def closingCalls (s : Session σ) (items : List Item) : List SourceCall :=
  match endOf? s items with
  | none => [.readLine (s.after (linesOf items)).prompt, .finish]
  | some (.line ..) => [.finish]
  | some (.failure _) => []

/-- What the loop gives: the failure to read, or else what the source answers at the end. -/
def resultOf (finish : Except ConsoleError Unit) (s : Session σ) (items : List Item) :
    Except ConsoleError Unit :=
  match endOf? s items with
  | some (.failure cause) => .error cause
  | _ => finish

/-! ### One item more in front

An item that does not end the loop leads to the session after its line, and everything behind it is
that of this session. -/

/-- Behind a first item a session has carried out its line. -/
lemma after_linesOf_cons (s : Session σ) (item : Item) (past : List Item) :
    s.after (linesOf (item :: past)) = (s.after item.line?.toList).after (linesOf past) := by
  rw [linesOf_cons, after_append]

lemma endsLoop_cons (s : Session σ) (item : Item) (past : List Item) (x : Item) :
    endsLoop s (item :: past) x = endsLoop (s.after item.line?.toList) past x := by
  cases x with
  | failure cause => rfl
  | line text wellFormed => rw [endsLoop, endsLoop, after_linesOf_cons]

lemma endsLoop_comp (s : Session σ) (item : Item) :
    (fun p : List Item × Item => endsLoop s p.1 p.2)
        ∘ (fun p : List Item × Item => (item :: p.1, p.2))
      = fun p : List Item × Item => endsLoop (s.after item.line?.toList) p.1 p.2 := by
  funext p
  exact endsLoop_cons s item p.1 p.2

lemma callsFor_cons (s : Session σ) (item : Item) (past : List Item) (x : Item) :
    callsFor s (item :: past) x = callsFor (s.after item.line?.toList) past x := by
  rw [callsFor, callsFor, after_linesOf_cons, endsLoop_cons]

variable {s : Session σ} {item : Item} (rest : List Item)

/-- An item that ends the loop is the last one that is read. -/
lemma readOf_of_ends (h : endsLoop s [] item = true) : readOf s (item :: rest) = [item] := by
  rw [readOf, withPast_cons, List.findIdx_cons, h]
  rfl

lemma endOf?_of_ends (h : endsLoop s [] item = true) : endOf? s (item :: rest) = some item := by
  rw [endOf?, withPast_cons, List.find?_cons, h]
  rfl

/-- Behind an item that does not end the loop, the session after its line goes on. -/
lemma readOf_of_goesOn (h : endsLoop s [] item = false) :
    readOf s (item :: rest) = item :: readOf (s.after item.line?.toList) rest := by
  rw [readOf, withPast_cons, List.findIdx_cons, h, cond_false, List.findIdx_map,
    endsLoop_comp, List.take_succ_cons]
  rfl

lemma endOf?_of_goesOn (h : endsLoop s [] item = false) :
    endOf? s (item :: rest) = endOf? (s.after item.line?.toList) rest := by
  rw [endOf?, withPast_cons, List.find?_cons, h, List.find?_map, endsLoop_comp,
    Option.map_map]
  rfl

lemma closingCalls_of_goesOn (h : endsLoop s [] item = false) :
    closingCalls s (item :: rest) = closingCalls (s.after item.line?.toList) rest := by
  rw [closingCalls, closingCalls, endOf?_of_goesOn rest h, after_linesOf_cons]

lemma resultOf_of_goesOn (finish : Except ConsoleError Unit) (h : endsLoop s [] item = false) :
    resultOf finish s (item :: rest) = resultOf finish (s.after item.line?.toList) rest := by
  rw [resultOf, resultOf, endOf?_of_goesOn rest h]

/-! ### The events of one item -/

/-- The outcome that an event tells of. -/
def Event.outcome? : Event → Option Outcome
  | dispatched _ outcome => some outcome
  | _ => none

/-- The events of a line that is not blank. -/
def eventsOfLine (s : Session σ) (queue : List Interrupt) (text : String) (wellFormed : Bool) :
    List Event :=
  [.asked s.prompt, .read s.prompt text wellFormed]
    ++ .history (Text.trim text) :: (interruptsDuring s (Text.trim text) queue).1
    ++ [.dispatched (s.interpret (Text.trim text)) (s.submit (Text.trim text)).1]

/-- While a command is in flight the source is told nothing and nothing is dispatched. -/
lemma awaitCommand_quiet (line : String) (queue : List Interrupt) :
    ∀ e ∈ (awaitCommand line queue).1, e.sourceCall? = none ∧ e.outcome? = none := by
  induction queue with
  | nil =>
      intro e he
      cases he
  | cons interrupt queue ih =>
      cases interrupt with
      | fire =>
          intro e he
          rcases List.mem_cons.mp he with rfl | he
          · exact ⟨rfl, rfl⟩
          · exact ih e he
      | unavailable reason =>
          intro e he
          obtain rfl := List.mem_singleton.mp he
          exact ⟨rfl, rfl⟩

lemma interruptsDuring_quiet (s : Session σ) (line : String) (queue : List Interrupt) :
    ∀ e ∈ (interruptsDuring s line queue).1, e.sourceCall? = none ∧ e.outcome? = none := by
  intro e he
  rw [interruptsDuring] at he
  split at he
  · split at he
    · exact awaitCommand_quiet line queue e he
    · cases he
  · cases he

/-- A line that is not blank is dispatched once. -/
lemma outcomes_eventsOfLine (s : Session σ) (queue : List Interrupt) (text : String)
    (wellFormed : Bool) :
    (eventsOfLine s queue text wellFormed).filterMap Event.outcome?
      = [(s.submit (Text.trim text)).1] := by
  have hquiet : (interruptsDuring s (Text.trim text) queue).1.filterMap Event.outcome? = [] :=
    List.filterMap_eq_nil_iff.mpr fun e he => (interruptsDuring_quiet s _ queue e he).2
  simp [eventsOfLine, List.filterMap_cons, Event.outcome?, hquiet]

/-- The source is asked for it and told to remember it. -/
lemma calls_eventsOfLine (s : Session σ) (queue : List Interrupt) (text : String)
    (wellFormed : Bool) :
    (eventsOfLine s queue text wellFormed).filterMap Event.sourceCall?
      = [.readLine s.prompt, .addHistory (Text.trim text)] := by
  have hquiet : (interruptsDuring s (Text.trim text) queue).1.filterMap Event.sourceCall? = [] :=
    List.filterMap_eq_nil_iff.mpr fun e he => (interruptsDuring_quiet s _ queue e he).1
  simp [eventsOfLine, List.filterMap_cons, Event.sourceCall?, hquiet]

/-! ### The loop, item by item -/

section Loop

variable {text : String} (wellFormed : Bool) (finish : Except ConsoleError Unit)
  (queue : List Interrupt)

/-- A blank line is passed over. -/
lemma loop_blank (hblank : Text.trim text = "") :
    loop finish s queue (.line text wellFormed :: rest)
      = (loop finish s queue rest).after [.asked s.prompt, .read s.prompt text wellFormed] := by
  rw [loop, if_pos hblank, Item.reading]

/-- A line that has the session leave is the last one. -/
lemma loop_leave (hline : Text.trim text ≠ "")
    (hflow : (s.submit (Text.trim text)).1.flow = .leave) :
    loop finish s queue (.line text wellFormed :: rest)
      = ⟨eventsOfLine s queue text wellFormed ++ [.left, .finished], finish,
          (s.submit (Text.trim text)).2, rest,
          (interruptsDuring s (Text.trim text) queue).2⟩ := by
  rw [loop, if_neg hline]
  simp only [hflow]
  rfl

/-- Behind any other line the loop goes on with the next session. -/
lemma loop_proceed (hline : Text.trim text ≠ "")
    (hflow : (s.submit (Text.trim text)).1.flow = .proceed) :
    loop finish s queue (.line text wellFormed :: rest)
      = (loop finish (s.submit (Text.trim text)).2
          (interruptsDuring s (Text.trim text) queue).2 rest).after
          (eventsOfLine s queue text wellFormed
            ++ [.completions (s.submit (Text.trim text)).2.activeMenu.names]) := by
  rw [loop, if_neg hline]
  simp only [hflow]
  rfl

end Loop

/-! ### The fold -/

/-- A run of the loop is the fold of a session over the lines that it reads. -/
structure Folds (finish : Except ConsoleError Unit) (s : Session σ) (items : List Item)
    (r : Run σ) : Prop where
  items_eq : items = readOf s items ++ r.unread
  session_eq : r.session = s.after (linesOf (readOf s items))
  outcomes_eq : r.events.filterMap Event.outcome? = s.outcomes (linesOf (readOf s items))
  calls_eq : r.sourceCalls
    = ((withPast (readOf s items)).flatMap fun p => callsFor s p.1 p.2) ++ closingCalls s items
  result_eq : r.result = resultOf finish s items

variable {finish : Except ConsoleError Unit} {r : Run σ}

/-- The run of an item that ends the loop. -/
lemma Folds.last (h : endsLoop s [] item = true) (hunread : r.unread = rest)
    (hsession : r.session = s.after item.line?.toList)
    (houtcomes : r.events.filterMap Event.outcome? = s.outcomes item.line?.toList)
    (hcalls : r.sourceCalls = callsFor s [] item ++ closingCalls s (item :: rest))
    (hresult : r.result = resultOf finish s (item :: rest)) :
    Folds finish s (item :: rest) r := by
  have hlines : linesOf [item] = item.line?.toList := by
    rw [linesOf_cons, linesOf_nil, List.append_nil]
  refine ⟨?_, ?_, ?_, ?_, hresult⟩
  · rw [readOf_of_ends rest h, hunread]
    rfl
  · rw [readOf_of_ends rest h, hlines, hsession]
  · rw [readOf_of_ends rest h, hlines, houtcomes]
  · rw [readOf_of_ends rest h, hcalls, flatMap_withPast_cons, withPast_nil, List.flatMap_nil,
      List.append_nil]

/-- The run of an item that does not end the loop, before the run of the others. -/
lemma Folds.cons (h : endsLoop s [] item = false)
    (hr : Folds finish (s.after item.line?.toList) rest r) {events : List Event}
    (houtcomes : events.filterMap Event.outcome? = s.outcomes item.line?.toList)
    (hcalls : events.filterMap Event.sourceCall? = callsFor s [] item) :
    Folds finish s (item :: rest) (r.after events) := by
  refine ⟨?_, ?_, ?_, ?_, ?_⟩
  · rw [readOf_of_goesOn rest h, List.cons_append]
    exact congrArg (item :: ·) hr.items_eq
  · rw [readOf_of_goesOn rest h, after_linesOf_cons]
    exact hr.session_eq
  · rw [readOf_of_goesOn rest h, linesOf_cons, outcomes_append, ← houtcomes, ← hr.outcomes_eq]
    exact List.filterMap_append
  · rw [readOf_of_goesOn rest h, closingCalls_of_goesOn rest h, flatMap_withPast_cons, ← hcalls,
      List.append_assoc]
    simp only [callsFor_cons]
    rw [← hr.calls_eq]
    exact List.filterMap_append
  · rw [resultOf_of_goesOn rest finish h]
    exact hr.result_eq

/-- An item whose line is known leads to the session after it. -/
lemma after_line?_some {line : String} (h : item.line? = some line) :
    s.after item.line?.toList = (s.submit line).2 := by
  rw [h, Option.toList_some, after_cons, after_nil]

lemma outcomes_line?_some {line : String} (h : item.line? = some line) :
    s.outcomes item.line?.toList = [(s.submit line).1] := by
  rw [h, Option.toList_some, outcomes_cons, outcomes_nil]

/-- What the source is told about an item with a line, at the start. -/
lemma callsFor_line?_some {line : String} (h : item.line? = some line) :
    callsFor s [] item = .readLine s.prompt :: .addHistory line ::
      if endsLoop s [] item then [] else [.setCompletions (s.submit line).2.activeMenu.names] := by
  rw [callsFor, h]
  rfl

/-- A line ends the loop if its outcome is to leave. -/
lemma endsLoop_line {text line : String} {wellFormed : Bool}
    (h : (Item.line text wellFormed).line? = some line) :
    endsLoop s [] (.line text wellFormed) = decide ((s.submit line).1.flow = .leave) := by
  rw [endsLoop, h]
  rfl

/-- A blank line gives the session nothing, and the loop goes on. -/
lemma line?_blank {text : String} (wellFormed : Bool) (hblank : Text.trim text = "") :
    (Item.line text wellFormed).line? = none := by
  rw [Item.line?, if_pos hblank]

lemma goesOn_blank {text : String} (wellFormed : Bool) (hblank : Text.trim text = "") :
    endsLoop s [] (.line text wellFormed) = false := by
  rw [endsLoop, line?_blank wellFormed hblank]
  rfl

/-- Any other line is given to the session trimmed. -/
lemma line?_of_ne_empty {text : String} (wellFormed : Bool) (hline : Text.trim text ≠ "") :
    (Item.line text wellFormed).line? = some (Text.trim text) := by
  rw [Item.line?, if_neg hline]

lemma ends_of_leave {text : String} (wellFormed : Bool) (hline : Text.trim text ≠ "")
    (hflow : (s.submit (Text.trim text)).1.flow = .leave) :
    endsLoop s [] (.line text wellFormed) = true := by
  rw [endsLoop_line (line?_of_ne_empty wellFormed hline), hflow, decide_eq_true rfl]

lemma goesOn_of_proceed {text : String} (wellFormed : Bool) (hline : Text.trim text ≠ "")
    (hflow : (s.submit (Text.trim text)).1.flow = .proceed) :
    endsLoop s [] (.line text wellFormed) = false := by
  rw [endsLoop_line (line?_of_ne_empty wellFormed hline), hflow, decide_eq_false (by decide)]

/-- A blank line ahead of a fold. -/
lemma folds_blank {text : String} {wellFormed : Bool} (hblank : Text.trim text = "")
    (hr : Folds finish s rest r) :
    Folds finish s (.line text wellFormed :: rest)
      (r.after [.asked s.prompt, .read s.prompt text wellFormed]) := by
  have hline := line?_blank wellFormed hblank
  refine Folds.cons rest (goesOn_blank wellFormed hblank) ?_ ?_ ?_
  · rw [hline]
    exact hr
  · rw [hline]
    rfl
  · rw [callsFor, hline]
    rfl

/-- A line that has the session leave. -/
lemma folds_leave {text : String} {wellFormed : Bool} {interrupts : List Interrupt}
    (queue : List Interrupt) (hline : Text.trim text ≠ "")
    (hflow : (s.submit (Text.trim text)).1.flow = .leave) :
    Folds finish s (.line text wellFormed :: rest)
      ⟨eventsOfLine s queue text wellFormed ++ [.left, .finished], finish,
        (s.submit (Text.trim text)).2, rest, interrupts⟩ := by
  have hitem := line?_of_ne_empty wellFormed hline
  have hends := ends_of_leave wellFormed hline hflow
  refine Folds.last rest hends rfl ?_ ?_ ?_ ?_
  · rw [after_line?_some hitem]
  · rw [outcomes_line?_some hitem, List.filterMap_append, outcomes_eventsOfLine]
    rfl
  · rw [Run.sourceCalls, List.filterMap_append, calls_eventsOfLine, callsFor_line?_some hitem,
      hends, if_pos rfl, closingCalls, endOf?_of_ends rest hends]
    rfl
  · rw [resultOf, endOf?_of_ends rest hends]

/-- A line that does not, ahead of a fold of the session after it. -/
lemma folds_proceed {text : String} {wellFormed : Bool} (queue : List Interrupt)
    (hline : Text.trim text ≠ "") (hflow : (s.submit (Text.trim text)).1.flow = .proceed)
    (hr : Folds finish (s.submit (Text.trim text)).2 rest r) :
    Folds finish s (.line text wellFormed :: rest)
      (r.after (eventsOfLine s queue text wellFormed
        ++ [.completions (s.submit (Text.trim text)).2.activeMenu.names])) := by
  have hitem := line?_of_ne_empty wellFormed hline
  have hgoes := goesOn_of_proceed wellFormed hline hflow
  refine Folds.cons rest hgoes ?_ ?_ ?_
  · rw [after_line?_some hitem]
    exact hr
  · rw [outcomes_line?_some hitem, List.filterMap_append, outcomes_eventsOfLine]
    rfl
  · rw [List.filterMap_append, calls_eventsOfLine, callsFor_line?_some hitem, hgoes]
    rfl

/-- **The loop is a fold**, whatever the interrupts. -/
theorem loop_folds (finish : Except ConsoleError Unit) (s : Session σ) (queue : List Interrupt)
    (items : List Item) : Folds finish s items (loop finish s queue items) := by
  induction items generalizing s queue with
  | nil => exact ⟨rfl, rfl, rfl, rfl, rfl⟩
  | cons item rest ih =>
      cases item with
      | failure cause =>
          have hends : endsLoop s [] (.failure cause) = true := rfl
          refine Folds.last rest hends rfl rfl rfl ?_ ?_
          · rw [closingCalls, endOf?_of_ends rest hends]
            rfl
          · rw [resultOf, endOf?_of_ends rest hends]
            rfl
      | line text wellFormed =>
          by_cases hblank : Text.trim text = ""
          · rw [loop_blank rest wellFormed finish queue hblank]
            exact folds_blank rest hblank (ih s queue)
          · cases hflow : (s.submit (Text.trim text)).1.flow with
            | leave =>
                rw [loop_leave rest wellFormed finish queue hblank hflow]
                exact folds_leave rest queue hblank hflow
            | proceed =>
                rw [loop_proceed rest wellFormed finish queue hblank hflow]
                exact folds_proceed rest queue hblank hflow (ih _ _)

end DaemonConsole.Console
