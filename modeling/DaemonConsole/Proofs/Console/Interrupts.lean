/-
Interrupts: what they add to a run, and that they change nothing else.

Interrupts are taken only while a command is in flight, and they are only told of. The queue of
interrupts is cut into segments at the failures to listen, and the fires of a segment are the notices
of one command: those of the first segment belong to the first command of the run, and so on.

* `Transparent`: two runs that differ by the events of interrupts alone;
* `loop_transparent`: a run with interrupts and the run without them are such;
* `segments`, `firesFor`, `noticesFor`: the notices of a line, from the queue and the number of
  commands sent before it;
* `Serves`, `reports_loop`: the queue that the loop has come to holds the segments of the commands
  that are still to be sent, so each line tells its own notices and then its reports;
* `run_interrupted`: all of this for a run over prepared answers.
-/
import DaemonConsole.Proofs.Console.Streams
import DaemonConsole.Proofs.Session.Record

namespace DaemonConsole

/-! ### Commands that are sent -/

/-- Whether an exchange runs a command. -/
def Exchange.isCommand : Exchange → Bool
  | getMenu .. => false
  | execute .. => true

namespace Session

variable {σ : Type}

/-- Whether a line runs a command of a layer in the present place. -/
def runsCommand (s : Session σ) (line : String) : Bool :=
  match s.interpret line with
  | .run .. => true
  | _ => false

/-- The number of commands that a session has sent. -/
def commandsSent (s : Session (Recorder σ)) : Nat :=
  s.record.countP Exchange.isCommand

variable [ControlChannel σ]

/-- A line that runs a command sends it once, and any other line sends none. -/
lemma commandsSent_submit (s : Session (Recorder σ)) (line : String) :
    (s.submit line).2.commandsSent = s.commandsSent + if s.runsCommand line then 1 else 0 := by
  rw [submit, runsCommand]
  cases s.interpret line with
  | enter layer =>
      rw [perform, commandsSent, record, channel_load]
      exact List.countP_append
  | run layer command args =>
      rw [perform]
      rcases hrun : ControlChannel.execute s.channel layer command.id args with ⟨answer, channel⟩
      simp only [commandsSent, record, (Recorder.execute_eq hrun).2, List.countP_append]
      rfl
  | _ => rfl

/-- The commands of a run are sent by the lines that run one, each of them once. -/
lemma commandsSent_after (s : Session (Recorder σ)) (lines : List String) :
    (s.after lines).commandsSent
      = s.commandsSent + (withPast lines).countP fun p => (s.after p.1).runsCommand p.2 := by
  induction lines generalizing s with
  | nil => rfl
  | cons line lines ih =>
      rw [after_cons, ih, commandsSent_submit, withPast_cons, List.countP_cons, List.countP_map,
        Nat.add_assoc]
      exact congrArg (s.commandsSent + ·) (Nat.add_comm _ _)

/-- No line is answered with an interrupt. -/
lemma interrupted_not_mem_reports (s : Session σ) (line : String) :
    .interrupted ∉ (s.submit line).1.reports := by
  obtain ⟨outcome, next, hstep⟩ := exists_step s line
  rw [hstep.submit_eq]
  cases hstep with
  | run =>
      intro h
      rcases mem_reports_outcomeOf h with ⟨_, h⟩ | ⟨_, h⟩ | ⟨_, h⟩
      all_goals cases h
  | _ => simp [Outcome.quiet, Outcome.exit, Outcome.ofReport]

end Session

namespace Console

open Session

variable {σ : Type}

/-! ### Runs that differ by interrupts alone -/

/-- Whether an event tells of an interrupt, or that none could be listened for. -/
def Event.isInterrupt : Event → Bool
  | interrupted _ => true
  | interruptsUnavailable _ => true
  | _ => false

/-- The events that are not about interrupts. -/
def Run.proper (r : Run σ) : List Event :=
  r.events.filter fun e => !e.isInterrupt

/-- The reports of a run in order. -/
def Run.reports (r : Run σ) : List Report :=
  r.events.flatMap Event.reports

/-- A run and one without interrupts that agree on all but the events of interrupts. -/
structure Transparent (r plain : Run σ) : Prop where
  /-- Only events of interrupts are new. -/
  proper_eq : r.proper = plain.events
  /-- The loop gives the same. -/
  result_eq : r.result = plain.result
  /-- Place, menus and the channel with its exchanges are the same. -/
  session_eq : r.session = plain.session
  /-- The same items are left. -/
  unread_eq : r.unread = plain.unread

namespace Transparent

variable {r plain : Run σ}

/-- The same events may go before both runs. -/
lemma after (h : Transparent r plain) {events events' : List Event}
    (hevents : (events.filter fun e => !e.isInterrupt) = events') :
    Transparent (r.after events) (plain.after events') where
  proper_eq := by
    rw [Run.proper, Run.after, List.filter_append, hevents]
    exact congrArg (events' ++ ·) h.proper_eq
  result_eq := h.result_eq
  session_eq := h.session_eq
  unread_eq := h.unread_eq

/-- The source is told the same. -/
lemma sourceCalls_eq (h : Transparent r plain) : r.sourceCalls = plain.sourceCalls := by
  rw [Run.sourceCalls, Run.sourceCalls, ← h.proper_eq, Run.proper, List.filterMap_filter]
  refine List.filterMap_congr fun e _ => ?_
  cases e with
  | _ => rfl

/-- Pieces that are empty may be left out of a text. -/
lemma join_map_filter {α : Type} {f : α → String} {p : α → Bool} {xs : List α}
    (h : ∀ x ∈ xs, p x = false → f x = "") :
    String.join ((xs.filter p).map f) = String.join (xs.map f) := by
  induction xs with
  | nil => rfl
  | cons x xs ih =>
      obtain ⟨hx, hxs⟩ := List.forall_mem_cons.mp h
      rw [List.filter_cons, List.map_cons, String.join_cons, ← ih hxs]
      cases hp : p x with
      | true => simp
      | false => simp [hx hp]

/-- In text form an interrupt is told on the error stream, so the standard output is the same. -/
lemma outputText_eq (h : Transparent r plain) (echo : Bool) :
    r.outputText .text echo = plain.outputText .text echo := by
  rw [Run.outputText, Run.outputText, ← h.proper_eq, Run.proper, join_map_filter]
  intro e _ hproper
  cases e with
  | interrupted line => rfl
  | interruptsUnavailable reason => rfl
  | _ => cases hproper

end Transparent

/-- All events of a command in flight are about interrupts. -/
lemma awaitCommand_isInterrupt (line : String) (queue : List Interrupt) :
    ∀ e ∈ (awaitCommand line queue).1, e.isInterrupt = true := by
  induction queue with
  | nil =>
      intro e he
      cases he
  | cons interrupt queue ih =>
      cases interrupt with
      | fire =>
          intro e he
          rcases List.mem_cons.mp he with rfl | he
          · rfl
          · exact ih e he
      | unavailable reason =>
          intro e he
          obtain rfl := List.mem_singleton.mp he
          rfl

variable [ControlChannel σ]

/-- The interrupts of a line are those of its command if it runs one that takes time. -/
lemma interruptsDuring_eq (s : Session σ) (line : String) (queue : List Interrupt) :
    interruptsDuring s line queue
      = if s.runsCommand line && ControlChannel.takesTime s.channel then awaitCommand line queue
        else ([], queue) := by
  rw [interruptsDuring, runsCommand]
  cases s.interpret line with
  | run => rw [Bool.true_and]
  | _ => rfl

/-- Without the events of interrupts a line has the events that it has without interrupts. -/
lemma proper_eventsOfLine (s : Session σ) (queue : List Interrupt) (text : String)
    (wellFormed : Bool) :
    ((eventsOfLine s queue text wellFormed).filter fun e => !e.isInterrupt)
      = eventsOfLine s [] text wellFormed := by
  have hall : ∀ e ∈ (interruptsDuring s (Text.trim text) queue).1, e.isInterrupt = true := by
    intro e he
    rw [interruptsDuring_eq] at he
    split at he
    · exact awaitCommand_isInterrupt _ queue e he
    · cases he
  rw [eventsOfLine, eventsOfLine, interruptsDuring_nil]
  simpa [Event.isInterrupt] using hall

/-- **Interrupts are transparent**: a run with interrupts differs from the run without them by the
events of interrupts alone. -/
theorem loop_transparent (finish : Except ConsoleError Unit) (s : Session σ)
    (queue : List Interrupt) (items : List Item) :
    Transparent (loop finish s queue items) (loop finish s [] items) := by
  induction items generalizing s queue with
  | nil => exact ⟨rfl, rfl, rfl, rfl⟩
  | cons item rest ih =>
      cases item with
      | failure cause => exact ⟨rfl, rfl, rfl, rfl⟩
      | line text wellFormed =>
          by_cases hblank : Text.trim text = ""
          · rw [loop_blank rest wellFormed finish queue hblank,
              loop_blank rest wellFormed finish [] hblank]
            exact (ih s queue).after rfl
          · cases hflow : (s.submit (Text.trim text)).1.flow with
            | leave =>
                rw [loop_leave rest wellFormed finish queue hblank hflow,
                  loop_leave rest wellFormed finish [] hblank hflow]
                refine ⟨?_, rfl, rfl, rfl⟩
                rw [Run.proper, List.filter_append, proper_eventsOfLine]
                rfl
            | proceed =>
                rw [loop_proceed rest wellFormed finish queue hblank hflow,
                  loop_proceed rest wellFormed finish [] hblank hflow, interruptsDuring_nil]
                refine (ih _ _).after ?_
                rw [List.filter_append, proper_eventsOfLine]
                rfl

/-! ### Segments of the queue -/

/-- Whether interrupts cannot be listened for. -/
def Interrupt.isFailure : Interrupt → Bool
  | fire => false
  | unavailable _ => true

/-- The queue cut at the failures to listen. -/
def segments (queue : List Interrupt) : List (List Interrupt) :=
  queue.splitOnP Interrupt.isFailure

/-- The number of fires in the segment with a number; there are none behind the last segment. -/
def firesFor (queue : List Interrupt) (k : Nat) : Nat :=
  ((segments queue)[k]?.getD []).count .fire

@[simp] lemma firesFor_nil (k : Nat) : firesFor [] k = 0 := by
  cases k <;> rfl

/-- A fire belongs to the first segment. -/
lemma firesFor_fire (queue : List Interrupt) (k : Nat) :
    firesFor (.fire :: queue) k = firesFor queue k + if k = 0 then 1 else 0 := by
  have hcut : segments (.fire :: queue) = (segments queue).modifyHead (List.cons .fire) :=
    List.splitOnP_cons_eq_if_modifyHead ..
  rw [firesFor, firesFor, hcut, List.getElem?_modifyHead]
  cases k with
  | succ k => rfl
  | zero =>
      cases hseg : segments queue with
      | nil => exact absurd hseg (List.splitOnP_ne_nil _ _)
      | cons first others => simp

/-- A failure to listen ends the first segment. -/
lemma firesFor_unavailable_zero (reason : String) (queue : List Interrupt) :
    firesFor (.unavailable reason :: queue) 0 = 0 := by
  rw [firesFor, segments, List.splitOnP_cons_eq_if_modifyHead]
  rfl

lemma firesFor_unavailable_succ (reason : String) (queue : List Interrupt) (k : Nat) :
    firesFor (.unavailable reason :: queue) (k + 1) = firesFor queue k := by
  rw [firesFor, segments, List.splitOnP_cons_eq_if_modifyHead]
  rfl

/-- A command in flight takes the first segment, fire by fire. -/
lemma reports_awaitCommand (line : String) (queue : List Interrupt) :
    (awaitCommand line queue).1.flatMap Event.reports
      = List.replicate (firesFor queue 0) .interrupted := by
  induction queue with
  | nil => rfl
  | cons interrupt queue ih =>
      cases interrupt with
      | fire =>
          rw [awaitCommand, firesFor_fire, if_pos rfl, List.replicate_succ, ← ih]
          rfl
      | unavailable reason =>
          rw [awaitCommand, firesFor_unavailable_zero]
          rfl

/-- It leaves the segments behind the first. -/
lemma firesFor_awaitCommand (line : String) (queue : List Interrupt) (k : Nat) :
    firesFor (awaitCommand line queue).2 k = firesFor queue (k + 1) := by
  induction queue with
  | nil => rw [awaitCommand, firesFor_nil, firesFor_nil]
  | cons interrupt queue ih =>
      cases interrupt with
      | fire =>
          rw [awaitCommand, firesFor_fire, if_neg k.succ_ne_zero, ← ih]
          rfl
      | unavailable reason => rw [awaitCommand, firesFor_unavailable_succ]

/-! ### The notices of a line -/

/-- The notices of a line: the fires of the segment that belongs to its command, if it runs one that
takes time. -/
def noticesFor (queue : List Interrupt) (s : Session (Recorder σ)) (line : String) : Nat :=
  if s.runsCommand line && ControlChannel.takesTime s.channel then firesFor queue s.commandsSent
  else 0

/-- What is told about a line: its notices, and then its own reports. -/
def told (queue : List Interrupt) (s : Session (Recorder σ)) (line : String) : List Report :=
  List.replicate (noticesFor queue s line) .interrupted ++ (s.submit line).1.reports

/-- If commands take time, a queue holds the segments of those that a session has still to send. -/
def Serves (full queue : List Interrupt) (s : Session (Recorder σ)) : Prop :=
  ControlChannel.takesTime s.channel = true →
    ∀ k, firesFor queue k = firesFor full (s.commandsSent + k)

/-- The reports of a line are what is told about it. -/
lemma reports_eventsOfLine {full queue : List Interrupt} {s : Session (Recorder σ)}
    (h : Serves full queue s) (text : String) (wellFormed : Bool) :
    (eventsOfLine s queue text wellFormed).flatMap Event.reports
      = told full s (Text.trim text) := by
  have hnotices : (interruptsDuring s (Text.trim text) queue).1.flatMap Event.reports
      = List.replicate (noticesFor full s (Text.trim text)) .interrupted := by
    rw [interruptsDuring_eq, noticesFor]
    split
    · next hcommand =>
        rw [reports_awaitCommand, h (Bool.and_eq_true_iff.mp hcommand).2 0, Nat.add_zero]
    · rfl
  rw [told, ← hnotices]
  simp [eventsOfLine, Event.reports]

/-- The queue that a line leaves serves the session that it leaves. -/
lemma Serves.step {full queue : List Interrupt} {s : Session (Recorder σ)} (h : Serves full queue s)
    {line : String} (hsteady : ControlChannel.takesTime (s.submit line).2.channel
      = ControlChannel.takesTime s.channel) :
    Serves full (interruptsDuring s line queue).2 (s.submit line).2 := by
  intro htime k
  rw [hsteady] at htime
  rw [interruptsDuring_eq, commandsSent_submit, htime, Bool.and_true]
  cases s.runsCommand line with
  | true =>
      rw [if_pos rfl, if_pos rfl, firesFor_awaitCommand, h htime (k + 1), Nat.add_assoc,
        Nat.add_comm 1 k]
  | false => exact h htime k

/-! ### The reports of a run -/

/-- Prepared answers stay what they are. -/
lemma channel_submit (s : Session (Recorder Preset)) (line : String) :
    (s.submit line).2.channel.channel = s.channel.channel := by
  rw [submit]
  cases s.interpret line with
  | enter layer =>
      rw [perform, channel_load]
      rfl
  | run layer command args =>
      rw [perform]
      rcases hrun : ControlChannel.execute s.channel layer command.id args with ⟨answer, channel⟩
      exact (congrArg Prod.snd (Recorder.execute_eq hrun).1).symm
  | _ => rfl

/-- So they take time or not throughout. -/
lemma takesTime_submit (s : Session (Recorder Preset)) (line : String) :
    ControlChannel.takesTime (s.submit line).2.channel = ControlChannel.takesTime s.channel :=
  congrArg (fun preset : Preset => decide (0 < preset.delay)) (channel_submit s line)

/-- The prepared answers of a session stay what they are over a run. -/
lemma channel_after (s : Session (Recorder Preset)) (lines : List String) :
    (s.after lines).channel.channel = s.channel.channel := by
  induction lines generalizing s with
  | nil => rfl
  | cons line lines ih => rw [after_cons, ih, channel_submit]

/-- **Every line tells its notices and then its reports.** -/
theorem reports_loop (finish : Except ConsoleError Unit) {full queue : List Interrupt}
    {s : Session (Recorder Preset)} (h : Serves full queue s) (items : List Item) :
    (loop finish s queue items).reports
      = (withPast (linesOf (readOf s items))).flatMap fun p => told full (s.after p.1) p.2 := by
  induction items generalizing s queue with
  | nil => rfl
  | cons item rest ih =>
      cases item with
      | failure cause => rw [readOf_of_ends rest rfl]; rfl
      | line text wellFormed =>
          by_cases hblank : Text.trim text = ""
          · rw [loop_blank rest wellFormed finish queue hblank,
              readOf_of_goesOn rest (goesOn_blank wellFormed hblank), linesOf_cons,
              line?_blank wellFormed hblank]
            exact ih h
          · have hline := line?_of_ne_empty wellFormed hblank
            cases hflow : (s.submit (Text.trim text)).1.flow with
            | leave =>
                rw [loop_leave rest wellFormed finish queue hblank hflow, Run.reports,
                  List.flatMap_append, reports_eventsOfLine h,
                  readOf_of_ends rest (ends_of_leave wellFormed hblank hflow), linesOf_cons, hline,
                  linesOf_nil]
                rfl
            | proceed =>
                rw [loop_proceed rest wellFormed finish queue hblank hflow,
                  readOf_of_goesOn rest (goesOn_of_proceed wellFormed hblank hflow), linesOf_cons,
                  after_line?_some hline, hline, Option.toList_some, List.singleton_append,
                  flatMap_withPast_cons]
                have hrest := ih (h.step (takesTime_submit s (Text.trim text)))
                rw [Run.reports] at hrest
                rw [Run.reports, Run.after, List.flatMap_append, List.flatMap_append,
                  reports_eventsOfLine h, hrest, List.append_assoc]
                -- the completions that follow a line report nothing
                simp only [List.flatMap_singleton, Event.reports, List.nil_append, after_nil,
                  after_cons]

/-- What a line tells besides its notices is what its outcome reports. -/
lemma told_filter (queue : List Interrupt) (s : Session (Recorder σ)) (line : String) :
    ((told queue s line).filter fun r => decide (r ≠ .interrupted)) = (s.submit line).1.reports := by
  rw [told, List.filter_append, List.filter_replicate, if_neg (by simp), List.nil_append]
  refine List.filter_eq_self.mpr fun r hr => decide_eq_true ?_
  rintro rfl
  exact interrupted_not_mem_reports s line hr

/-- Without interrupts a line tells what its outcome reports. -/
lemma told_nil (s : Session (Recorder σ)) (line : String) :
    told [] s line = (s.submit line).1.reports := by
  rw [told, noticesFor, firesFor_nil, ite_self]
  rfl

/-- **Interrupts are transparent and accounted for**: over a channel with prepared answers a run with
a queue of interrupts and the run without them agree on all but the events of interrupts. So they
give the same, leave the same session with the same exchanges, and tell the source the same. Each
line that runs a command sends it once. Each line reports first the notices of its command, as many
as fires are in the segment with the number of the commands sent before it, and then what it reports
without interrupts. In text form the standard output is the same, and if no command takes time there
are no notices at all. -/
theorem run_interrupted (root : Menu) (preset : Preset) (product : String) (items : List Item)
    (queue : List Interrupt) (finish : Except ConsoleError Unit) :
    let s := start root (Recorder.start preset) product
    let r := run s items queue finish
    let plain := run s items [] finish
    let lines := linesOf (readOf s items)
    Transparent r plain ∧
      r.sourceCalls = plain.sourceCalls ∧
      r.session = s.after lines ∧
      r.session.commandsSent
        = ((withPast lines).countP fun p => (s.after p.1).runsCommand p.2) ∧
      r.reports = ((withPast lines).flatMap fun p =>
        List.replicate
            (if (s.after p.1).runsCommand p.2 && decide (0 < preset.delay) then
              firesFor queue (s.after p.1).commandsSent
            else 0)
            .interrupted
          ++ ((s.after p.1).submit p.2).1.reports) ∧
      plain.reports = (r.reports.filter fun report => decide (report ≠ .interrupted)) ∧
      (∀ format, r.errorText format = String.join (r.reports.map (Report.errorText format)) ∧
        r.outputText format false = String.join (r.reports.map (Report.outputText format))) ∧
      (∀ echo, r.outputText .text echo = plain.outputText .text echo) ∧
      (preset.delay = 0 → r.reports = plain.reports) := by
  intro s r plain lines
  have htransparent : Transparent r plain := (loop_transparent finish s queue items).after rfl
  have hsession : r.session = s.after lines := (loop_folds finish s queue items).session_eq
  have hreports : r.reports = (withPast lines).flatMap fun p => told queue (s.after p.1) p.2 :=
    reports_loop finish (fun _ k => by rw [show s.commandsSent = 0 from rfl, Nat.zero_add]) items
  have hplain : plain.reports
      = (withPast lines).flatMap fun p => ((s.after p.1).submit p.2).1.reports := by
    have hserves : Serves [] [] s := fun _ k => by rw [firesFor_nil, firesFor_nil]
    have hnone := reports_loop finish hserves items
    simp only [told_nil] at hnone
    exact hnone
  have htime : ∀ p : List String × String,
      ControlChannel.takesTime (s.after p.1).channel = decide (0 < preset.delay) := fun p =>
    congrArg ControlChannel.takesTime (channel_after s p.1)
  refine ⟨htransparent, htransparent.sourceCalls_eq, hsession, ?_, ?_, ?_,
    fun format => ⟨errorText_eq_reports r format, outputText_eq_reports r format⟩,
    htransparent.outputText_eq, ?_⟩
  · rw [hsession, commandsSent_after]
    exact Nat.zero_add _
  · rw [hreports]
    simp only [told, noticesFor, htime]
  · rw [hreports, hplain, List.filter_flatMap]
    simp only [told_filter]
  · intro hdelay
    rw [hreports, hplain]
    simp [told, noticesFor, htime, hdelay]

end Console

end DaemonConsole
