/-
The lines of the error stream.

In the sessions over the daemon of a valid configuration a report of an error is told with words of
the operator, names of the configuration and fixed texts, and none of these holds a line break. So
the lines on the error stream are those that the reports are meant to have, and no input adds one.

* `Report.errorLines`, `Report.errorTexts`: the lines that a report is meant to have on the error
  stream, and the texts that it holds;
* `Report.Contained`: a report that has these lines and no others;
* `Session.Hosted.contained`: every report of a hosted session is contained;
* `reports_loop_line`: the reports of a run over a daemon, line by line;
* `Item.unbreak`: an item with a space for each break of its line;
* `errors_unforged`: the error stream of every run.
-/
import DaemonConsole.Proofs.Console.Interrupts
import DaemonConsole.Proofs.Console.Transcript
import DaemonConsole.Proofs.Layer.Quotes
import DaemonConsole.Proofs.Session.Hosted
import DaemonConsole.Proofs.Session.Spacing

namespace DaemonConsole

open Text (Unbroken)

/-! ### Reports -/

namespace Report

/-- The lines that a report is meant to have on the error stream. -/
def errorLines : Report → List String
  | output _ => []
  | unknownCommand name => [name ++ ": no such command"]
  | loadFailed layer reason => ["cannot load commands for layer " ++ layer ++ ": " ++ reason]
  | commandFailed command reason help => [command ++ ": " ++ reason, "  " ++ command ++ " " ++ help]
  | sendFailed _ => ["failed to send command to daemon"]
  | interrupted => ["interrupted; waiting for the daemon to answer"]

/-- The texts that a report for the error stream holds. -/
def errorTexts : Report → List String
  | output _ => []
  | unknownCommand name => [name]
  | loadFailed layer reason => [layer, reason]
  | commandFailed command reason help => [command, reason, help]
  | sendFailed reason => [reason]
  | interrupted => []

/-- Whether a report is of an unknown command. -/
def isUnknownCommand : Report → Bool
  | unknownCommand _ => true
  | _ => false

/-- Whether a report is of a menu that was not loaded. -/
def isLoadFailed : Report → Bool
  | loadFailed .. => true
  | _ => false

/-- Whether a report is of a command that was refused. -/
def isCommandFailed : Report → Bool
  | commandFailed .. => true
  | _ => false

/-- A report that is told on the standard output, or that is of an unknown command, a failed load or
a refused command; then it has the lines that it is meant to have, and neither they nor its texts
hold a break. -/
structure Contained (r : Report) : Prop where
  kind : r.isError = true → r.isUnknownCommand ∨ r.isLoadFailed ∨ r.isCommandFailed
  texts_unbroken : ∀ t ∈ r.errorTexts, Unbroken t
  lines_unbroken : ∀ l ∈ r.errorLines, Unbroken l
  errorText_eq : r.errorText .text = String.join (r.errorLines.map (· ++ "\n"))

lemma message_unknownCommand (name : String) :
    (unknownCommand name).message = name ++ ": no such command" := by
  unfold message
  rfl

lemma message_loadFailed (layer reason : String) :
    (loadFailed layer reason).message
      = "cannot load commands for layer " ++ layer ++ ": " ++ reason := by
  unfold message
  rfl

/-- A refused command with a description is told on two lines. -/
lemma message_commandFailed (command reason : String) {help : String} (hne : help ≠ "") :
    (commandFailed command reason help).message
      = command ++ ": " ++ reason ++ ("\n" ++ ("  " ++ command ++ " " ++ help)) := by
  -- the line feed and the indent behind it are one literal in the wording
  have hindent : "\n  " = "\n" ++ "  " := rfl
  have hhelp : (if help = "" then "" else s!"\n  {command} {help}")
      = "\n" ++ ("  " ++ command ++ " " ++ help) := by
    rw [if_neg hne, hindent]
    simp only [String.append_assoc]
    rfl
  unfold message
  exact congrArg (command ++ ": " ++ reason ++ ·) hhelp

lemma contained_output (text : String) : (output text).Contained where
  kind h := by cases h
  texts_unbroken := List.forall_mem_nil _
  lines_unbroken := List.forall_mem_nil _
  errorText_eq := rfl

/-- An unknown command is told on one line if its name is without breaks. -/
lemma contained_unknownCommand {name : String} (h : Unbroken name) :
    (unknownCommand name).Contained where
  kind _ := .inl rfl
  texts_unbroken := List.forall_mem_singleton.mpr h
  lines_unbroken := List.forall_mem_singleton.mpr (h.append (by decide))
  errorText_eq := by simp [errorText, isError, errorLines, message_unknownCommand]

/-- A failed load is told on one line if its texts are without breaks. -/
lemma contained_loadFailed {layer reason : String} (hlayer : Unbroken layer)
    (hreason : Unbroken reason) : (loadFailed layer reason).Contained where
  kind _ := .inr (.inl rfl)
  texts_unbroken := List.forall_mem_cons.mpr ⟨hlayer, List.forall_mem_singleton.mpr hreason⟩
  lines_unbroken := by
    have hfront : Unbroken ("cannot load commands for layer " ++ layer) :=
      Unbroken.append (by decide) hlayer
    exact List.forall_mem_singleton.mpr ((hfront.append (by decide)).append hreason)
  errorText_eq := by simp [errorText, isError, errorLines, message_loadFailed]

/-- A refused command is told on two lines if its texts are without breaks and it has a
description. -/
lemma contained_commandFailed {command reason help : String} (hcommand : Unbroken command)
    (hreason : Unbroken reason) (hhelp : Unbroken help) (hne : help ≠ "") :
    (commandFailed command reason help).Contained where
  kind _ := .inr (.inr rfl)
  texts_unbroken := List.forall_mem_cons.mpr ⟨hcommand, List.forall_mem_cons.mpr
    ⟨hreason, List.forall_mem_singleton.mpr hhelp⟩⟩
  lines_unbroken := by
    have hfirst : Unbroken (command ++ ": " ++ reason) :=
      (hcommand.append (by decide)).append hreason
    have hsecond : Unbroken ("  " ++ command ++ " " ++ help) :=
      ((Unbroken.append (by decide) hcommand).append (by decide)).append hhelp
    exact List.forall_mem_cons.mpr ⟨hfirst, List.forall_mem_singleton.mpr hsecond⟩
  errorText_eq := by
    simp [errorText, isError, errorLines, message_commandFailed command reason hne,
      String.append_assoc]

/-- Contained reports have one line for each unknown command and failed load, and two for each
refused command. -/
lemma length_errorLines {reports : List Report} (h : ∀ r ∈ reports, r.Contained) :
    (reports.flatMap errorLines).length = reports.countP isUnknownCommand
      + reports.countP isLoadFailed + 2 * reports.countP isCommandFailed := by
  induction reports with
  | nil => rfl
  | cons r reports ih =>
      obtain ⟨hr, hreports⟩ := List.forall_mem_cons.mp h
      rw [List.flatMap_cons, List.length_append, ih hreports, List.countP_cons, List.countP_cons,
        List.countP_cons]
      cases r with
      | sendFailed reason => simpa [isUnknownCommand, isLoadFailed, isCommandFailed] using hr.kind rfl
      | interrupted => simpa [isUnknownCommand, isLoadFailed, isCommandFailed] using hr.kind rfl
      | output text => simp [errorLines, isUnknownCommand, isLoadFailed, isCommandFailed]
      | _ =>
          simp [errorLines, isUnknownCommand, isLoadFailed, isCommandFailed]
          omega

end Report

/-! ### Sessions -/

/-- The name of a well-formed layer is one word. -/
lemma LayerSettings.WellFormed.word_name {l : LayerSettings} (h : l.WellFormed) :
    Text.Word l.name := by
  obtain ⟨hne, -, hchars⟩ := word_of_isLayerName h.name_ok
  exact ⟨fun c hc => isBlank_of_isNameChar (hchars c hc), hne⟩

/-- A refused command of a daemon is refused by a running layer. -/
lemma Daemon.refused_by_layer {d : Daemon} {layer : LayerId} {command : CommandId}
    {args reason : String} (h : (d.execute layer command args).1 = .error (.command reason)) :
    ∃ l fault, d.layers.get? layer = some l ∧ (l.execute command args).1 = .error fault ∧
      reason = fault.message := by
  cases hl : d.layers.get? layer with
  | none =>
      rw [execute, hl] at h
      cases h
  | some l =>
      rcases execute_cases hl command args with ⟨fault, hfault, heq⟩ | ⟨reply, next, -, heq⟩
      · rw [heq] at h
        cases h
        exact ⟨l, fault, rfl, congrArg Prod.fst hfault, rfl⟩
      · rw [heq] at h
        cases h

namespace Session

variable {c : Config} {product : String} {s next : Session Daemon} {line : String}
  {outcome : Outcome}

/-- A command that is sent gives an output, or a refusal on two lines. -/
lemma Hosted.contained_run (h : Hosted c product s) {layer : LayerId} {menu : Menu}
    {word rest : String} {command : Command} {answer : Except ExecError String} {channel : Daemon}
    (hplace : s.place = .inside layer menu) (hfind : menu.find? word = some command)
    (hanswer : ControlChannel.execute s.channel layer command.id rest = (answer, channel)) :
    ∀ r ∈ (outcomeOf command answer).reports, r.Contained := by
  obtain ⟨l, -, -, -, rfl⟩ := h.inside layer menu hplace
  obtain ⟨hname, hhelp, hne⟩ := l.kind.unbroken_menu command (Menu.mem_of_find? hfind)
  have hfst : (s.channel.execute layer command.id rest).1 = answer := congrArg Prod.fst hanswer
  rcases (h.answer hplace hfind rest).2 with ⟨text, htext, hok⟩ | ⟨reason, hfault⟩
  · rw [← hfst, hok, outcomeOf, if_neg htext]
    exact List.forall_mem_singleton.mpr (Report.contained_output text)
  · obtain ⟨running, fault, -, hrefused, rfl⟩ := Daemon.refused_by_layer hfault
    rw [← hfst, hfault]
    exact List.forall_mem_singleton.mpr
      (Report.contained_commandFailed hname (Layer.unbroken_refusal hrefused) hhelp hne)

/-- Every report of a hosted session is contained. -/
lemma Hosted.contained (hc : c.WellFormed) (h : Hosted c product s)
    (hstep : Step s line outcome next) : ∀ r ∈ outcome.reports, r.Contained := by
  -- a failed load is traced to its layer by the step itself, which is kept for this
  cases id hstep with
  | blank => exact List.forall_mem_nil _
  | leave => exact List.forall_mem_nil _
  | ascend => exact List.forall_mem_nil _
  | enter => exact List.forall_mem_nil _
  | unresolved hsplit _ _ =>
      exact List.forall_mem_singleton.mpr
        (Report.contained_unknownCommand (Text.word_of_splitFirst hsplit).unbroken)
  | refuse =>
      refine List.forall_mem_singleton.mpr ?_
      obtain ⟨-, -, l, hl, -, hname, hreason⟩ := h.of_loadFailed hc hstep (List.mem_singleton_self _)
      have hlayer : Unbroken l.name := (hc.layers_ok l hl).word_name.unbroken
      have hnotRunning : Unbroken (notRunningText l.id) :=
        unbroken_numbered (by decide) l.id.toNat (by decide)
      rw [← hname, hreason]
      exact Report.contained_loadFailed hlayer hnotRunning
  | run _ _ hplace hfind hanswer => exact h.contained_run hplace hfind hanswer

end Session

/-! ### Runs -/

namespace Console

open Session

/-- A daemon answers at once, so there is no time for an interrupt. -/
lemma interruptsDuring_daemon (s : Session Daemon) (line : String) (queue : List Interrupt) :
    interruptsDuring s line queue = ([], queue) := by
  have hatOnce : ControlChannel.takesTime s.channel = false := rfl
  rw [interruptsDuring_eq, hatOnce, Bool.and_false]
  rfl

variable (finish : Except ConsoleError Unit) (s : Session Daemon) (queue : List Interrupt)

/-- The reports of a line come before those of the session behind it, unless that has been left. -/
lemma reports_loop_line (text : String) (wellFormed : Bool) (rest : List Item) :
    (loop finish s queue (.line text wellFormed :: rest)).reports
      = (s.submit text).1.reports ++
        match (s.submit text).1.flow with
        | .leave => []
        | .proceed => (loop finish (s.submit text).2 queue rest).reports := by
  by_cases hblank : Text.trim text = ""
  · rw [loop_blank rest wellFormed finish queue hblank, s.submit_blank hblank]
    rfl
  · cases hflow : (s.submit text).1.flow with
    | leave =>
        rw [← s.submit_trim] at hflow ⊢
        rw [loop_leave rest wellFormed finish queue hblank hflow, Run.reports, eventsOfLine,
          interruptsDuring_daemon]
        simp [Event.reports]
    | proceed =>
        rw [← s.submit_trim] at hflow ⊢
        rw [loop_proceed rest wellFormed finish queue hblank hflow, Run.reports, Run.after,
          eventsOfLine, interruptsDuring_daemon]
        simp [Event.reports, Run.reports]

/-- An item with a space for each break of its line. -/
def Item.unbreak : Item → Item
  | line text wellFormed => .line (Text.unbreak text) wellFormed
  | failure cause => .failure cause

/-- The breaks of the lines might as well be spaces. -/
lemma reports_loop_unbreak (items : List Item) :
    (loop finish s queue (items.map Item.unbreak)).reports = (loop finish s queue items).reports := by
  induction items generalizing s with
  | nil => rfl
  | cons item rest ih =>
      cases item with
      | failure cause => rfl
      | line text wellFormed =>
          rw [List.map_cons, Item.unbreak, reports_loop_line, reports_loop_line,
            s.submit_congr (Text.words_unbreak text), ih]

variable {s} {c : Config} {product : String}

/-- The reports of a run of a hosted session are contained. -/
lemma contained_loop (hc : c.WellFormed) (h : Hosted c product s) (items : List Item) :
    ∀ r ∈ (loop finish s queue items).reports, r.Contained := by
  induction items generalizing s with
  | nil => exact List.forall_mem_nil _
  | cons item rest ih =>
      cases item with
      | failure cause => exact List.forall_mem_nil _
      | line text wellFormed =>
          have hstep := step_submit s text
          rw [reports_loop_line]
          refine List.forall_mem_append.mpr ⟨h.contained hc hstep, ?_⟩
          cases (s.submit text).1.flow with
          | leave => exact List.forall_mem_nil _
          | proceed => exact ih (h.step hstep)

/-- The error stream of contained reports is the lines that they are meant to have. -/
lemma errorText_of_contained {σ : Type} {r : Run σ} (h : ∀ report ∈ r.reports, report.Contained) :
    r.errorText .text = String.join ((r.reports.flatMap Report.errorLines).map (· ++ "\n")) := by
  have hreports : r.reports.map (Report.errorText .text)
      = r.reports.map fun report => String.join (report.errorLines.map (· ++ "\n")) :=
    List.map_congr_left fun report hreport => (h report hreport).errorText_eq
  rw [errorText_eq_reports, ← Run.reports, hreports, join_map_join, List.map_flatMap]

/-- **Error lines cannot be forged**: whatever is typed into the console over the daemon of a valid
configuration, and whatever interrupts there are, every report of an error is of an unknown command,
a failed load or a refused command. On the error stream the first two have one line and the third
has two, none of their texts holds a line break, and the line feeds are those behind these lines. No
report holds a break of the input: with spaces for all breaks the reports are the same. -/
theorem errors_unforged {c : Config} (hvalid : c.validate = .ok ()) (product : String) :
    ∃ root, c.rootMenu = .ok root ∧ ∀ items queue finish,
      let s := start root c.daemon product
      let r := run s items queue finish
      (∀ report ∈ r.reports, report.Contained) ∧
        r.errorText .text = String.join ((r.reports.flatMap Report.errorLines).map (· ++ "\n")) ∧
        (r.errorText .text).toList.count '\n' = r.reports.countP Report.isUnknownCommand
          + r.reports.countP Report.isLoadFailed + 2 * r.reports.countP Report.isCommandFailed ∧
        (run s (items.map Item.unbreak) queue finish).reports = r.reports := by
  have hc := Config.validate_eq_ok_iff.mp hvalid
  refine ⟨_, hc.rootMenu_eq, fun items queue finish => ?_⟩
  intro s r
  have hcontained : ∀ report ∈ r.reports, report.Contained :=
    contained_loop finish queue hc (hosted_start hc product) items
  have htext := errorText_of_contained hcontained
  have hunbroken : ∀ l ∈ r.reports.flatMap Report.errorLines, Unbroken l := by
    intro l hl
    obtain ⟨report, hreport, hl⟩ := List.mem_flatMap.mp hl
    exact (hcontained report hreport).lines_unbroken l hl
  refine ⟨hcontained, htext, ?_, reports_loop_unbreak finish s queue items⟩
  rw [htext, Text.count_feed_join hunbroken, Report.length_errorLines hcontained]

/-- A name of a layer that does not run with a paragraph separator behind it, a line feed with the
likeness of an error behind it, and a line separator between the arguments of a command. -/
def brokenLines : List Item :=
  [.line "edge\u2029x" true, .line "up\nlink: no such command" true, .line "link" true,
    .line "mtu eth0\u20289" true]

/-- The first two of these lines give one line each on the error stream, and the last one gives two. -/
theorem brokenLines_contained :
    edgeDisabled.validate = .ok () ∧ ∃ root, edgeDisabled.rootMenu = .ok root ∧
      ((run (start root edgeDisabled.daemon "stackd") brokenLines [] (.ok ())).errorText
        .text).toList.count '\n' = 4 := by
  have hvalid : edgeDisabled.validate = .ok () := rfl
  obtain ⟨root, hroot, herrors⟩ := errors_unforged hvalid "stackd"
  refine ⟨hvalid, root, hroot, ?_⟩
  have hcount := (herrors brokenLines [] (.ok ())).2.2.1
  rw [hcount]
  cases hroot
  decide

end Console

end DaemonConsole
