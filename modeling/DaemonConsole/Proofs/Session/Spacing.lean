/-
Sessions and the spacing of lines.

A line is looked up by its first word, and the commands of a running layer cut what is behind it into
words. So a session over the daemon takes from a line its words and nothing else; how they are spaced
never matters.

* `Service.execute_congr`, `Daemon.execute_congr`: a command takes from its arguments their words;
* `Session.submit_congr`: so does a session from a line;
* `Session.same_of_same_words`: two runs over lines of the same words are the same run.
-/
import DaemonConsole.Channel.Daemon
import DaemonConsole.Proofs.Session.Step
import DaemonConsole.Proofs.Text.Spacing
import Mathlib.Data.List.Forall2

namespace DaemonConsole

/-! ### Commands -/

section Commands

variable {args args' : String} (h : Text.words args = Text.words args')

include h

lemma Interfaces.execute_congr (s : Interfaces) (id : CommandId) :
    s.execute id args = s.execute id args' := by
  simp only [execute, list, setState, setMtu, h]

lemma Routes.execute_congr (s : Routes) (id : CommandId) :
    s.execute id args = s.execute id args' := by
  simp only [execute, ping, list, add, remove, h]

lemma Port.ofArguments_congr : Port.ofArguments args = Port.ofArguments args' := by
  simp only [ofArguments, h]

lemma Datagrams.execute_congr (s : Datagrams) (id : CommandId) :
    s.execute id args = s.execute id args' := by
  simp only [execute, bind, unbind, list, Port.ofArguments_congr h, h]

lemma Streams.execute_congr (s : Streams) (id : CommandId) :
    s.execute id args = s.execute id args' := by
  simp only [execute, listen, connect, close, list, Port.ofArguments_congr h, h]

/-- A command of a layer takes from its arguments their words. -/
lemma Service.execute_congr (s : Service) (id : CommandId) :
    s.execute id args = s.execute id args' := by
  cases s with
  | link state => rw [execute, execute, state.execute_congr h]
  | net state => rw [execute, execute, state.execute_congr h]
  | udp state => rw [execute, execute, state.execute_congr h]
  | tcp state => rw [execute, execute, state.execute_congr h]

/-- So does the daemon. -/
lemma Daemon.execute_congr (d : Daemon) (layer : LayerId) (command : CommandId) :
    d.execute layer command args = d.execute layer command args' := by
  rw [execute, execute]
  cases d.layers.get? layer with
  | none => rfl
  | some l => simp only [Layer.execute, Service.execute_congr h]

end Commands

/-! ### Sessions -/

namespace Session

variable {x y : String}

/-- A line is handled by the rule for its words. -/
lemma Step.congr {s next : Session Daemon} {outcome : Outcome} (h : Text.words x = Text.words y)
    (hstep : Step s x outcome next) : Step s y outcome next := by
  cases hstep with
  | blank hsplit =>
      refine .blank (Text.splitFirst_eq_none_iff_words.mpr ?_)
      rw [← h, Text.splitFirst_eq_none_iff_words.mp hsplit]
  | leave hsplit hplace =>
      obtain ⟨rest, hsplit, -⟩ := Text.splitFirst_of_words h hsplit
      exact .leave hsplit hplace
  | ascend hsplit hplace =>
      obtain ⟨rest, hsplit, -⟩ := Text.splitFirst_of_words h hsplit
      exact .ascend hsplit hplace
  | unresolved hsplit hword hfind =>
      obtain ⟨rest, hsplit, -⟩ := Text.splitFirst_of_words h hsplit
      exact .unresolved hsplit hword hfind
  | enter hsplit hword hplace hfind hmenu =>
      obtain ⟨rest, hsplit, -⟩ := Text.splitFirst_of_words h hsplit
      exact .enter hsplit hword hplace hfind hmenu
  | refuse hsplit hword hplace hfind hmenu =>
      obtain ⟨rest, hsplit, -⟩ := Text.splitFirst_of_words h hsplit
      exact .refuse hsplit hword hplace hfind hmenu
  | @run word rest layer menu command answer channel hsplit hword hplace hfind hanswer =>
      -- the arguments may differ in their spacing, which the daemon does not see
      obtain ⟨rest', hsplit, hrest⟩ := Text.splitFirst_of_words h hsplit
      exact .run hsplit hword hplace hfind
        ((s.channel.execute_congr hrest layer command.id).symm.trans hanswer)

/-- A session over the daemon takes from a line its words. -/
lemma submit_congr (s : Session Daemon) (h : Text.words x = Text.words y) :
    s.submit x = s.submit y :=
  ((step_submit s x).congr h).submit_eq.symm

variable {xs ys : List String}

/-- Lines of the same words lead to the same outcomes and to the same session. -/
lemma submitAll_congr (s : Session Daemon)
    (h : List.Forall₂ (fun x y => Text.words x = Text.words y) xs ys) :
    s.submitAll xs = s.submitAll ys := by
  induction h generalizing s with
  | nil => rfl
  | cons hwords _ ih => simp only [submitAll, s.submit_congr hwords, ih]

/-- **Only the words of a line matter**: over any daemon, lines that have the same words one by one
lead to the same outcomes, with their reports and whether the console goes on. Behind every line the
two sessions are the same, with their location, active menu and prompt, and so is the daemon that
they leave. -/
theorem same_of_same_words (root : Menu) (daemon : Daemon) (product : String)
    (h : List.Forall₂ (fun x y => Text.words x = Text.words y) xs ys) :
    let s := start root daemon product
    s.outcomes xs = s.outcomes ys ∧ (∀ n, s.after (xs.take n) = s.after (ys.take n)) ∧
      (s.after xs).channel = (s.after ys).channel := by
  intro s
  have hall := s.submitAll_congr h
  refine ⟨congrArg Prod.fst hall, fun n => ?_, congrArg (fun r => r.2.channel) hall⟩
  exact congrArg Prod.snd (s.submitAll_congr (List.forall₂_take n h))

/-- Tabs, no-break spaces and ideographic spaces separate words as spaces do. -/
theorem same_of_other_blanks :
    let s := start ⟨[⟨3, "udp", ""⟩]⟩ (Daemon.ofLayers [.build .udp 3 "udp"]) "stackd"
    Text.words "\tudp\u3000" = Text.words "udp" ∧
      Text.words "bind\u00A0 53" = Text.words "bind 53 " ∧
      s.outcomes ["\tudp\u3000", "bind\u00A0 53"] = s.outcomes ["udp", "bind 53 "] := by
  intro s
  have hname : Text.words "\tudp\u3000" = Text.words "udp" := by decide
  have hbind : Text.words "bind\u00A0 53" = Text.words "bind 53 " := by decide
  exact ⟨hname, hbind, (same_of_same_words _ _ _ (.cons hname (.cons hbind .nil))).1⟩

end Session

end DaemonConsole
