/-
Sessions whose channel is recorded.

A recorder keeps every exchange and changes nothing else, so the record of a run tells what a session
over the bare channel asks for and what it is answered.

* `Exchange.request`: an exchange without its answer;
* `lastLoad?`: the most recent request for a menu in a record, with its answer;
* `lastLoad?_eq_some_iff`: no exchange behind it asks for a menu;
* `Session.forget`, `Session.submit_forget`, `Session.after_forget`: a recorded session is a session
  over the bare channel, line by line.
-/
import DaemonConsole.Proofs.Session.Step

namespace DaemonConsole

/-! ### Records -/

/-- What the console asks of a channel. -/
inductive Request where
  | getMenu (layer : LayerId)
  | execute (layer : LayerId) (command : CommandId) (args : String)
  deriving DecidableEq, Repr

/-- The request of an exchange. -/
def Exchange.request : Exchange → Request
  | getMenu layer _ => .getMenu layer
  | execute layer command args _ => .execute layer command args

/-- The layer whose menu an exchange asks for, and the answer. -/
def Exchange.load? : Exchange → Option (LayerId × Except LoadError Menu)
  | getMenu layer answer => some (layer, answer)
  | execute .. => none

/-- The most recent request for a menu, with its answer. -/
def lastLoad? (record : List Exchange) : Option (LayerId × Except LoadError Menu) :=
  record.reverse.findSome? Exchange.load?

@[simp] lemma lastLoad?_getMenu (record : List Exchange) (layer : LayerId)
    (answer : Except LoadError Menu) :
    lastLoad? (record ++ [.getMenu layer answer]) = some (layer, answer) := by
  simp [lastLoad?, List.findSome?_cons, Exchange.load?]

@[simp] lemma lastLoad?_execute (record : List Exchange) (layer : LayerId) (command : CommandId)
    (args : String) (answer : Except ExecError String) :
    lastLoad? (record ++ [.execute layer command args answer]) = lastLoad? record := by
  simp [lastLoad?, List.findSome?_cons, Exchange.load?]

/-- The most recent load stands in the record, and no load stands behind it. -/
lemma lastLoad?_eq_some_iff {record : List Exchange} {layer : LayerId}
    {answer : Except LoadError Menu} :
    lastLoad? record = some (layer, answer) ↔
      ∃ before behind, record = before ++ .getMenu layer answer :: behind ∧
        ∀ e ∈ behind, e.load? = none := by
  constructor
  · intro h
    obtain ⟨front, e, back, hrev, he, hnone⟩ := List.findSome?_eq_some_iff.mp h
    cases e with
    | execute => simp [Exchange.load?] at he
    | getMenu layer' answer' =>
        simp only [Exchange.load?, Option.some.injEq, Prod.mk.injEq] at he
        obtain ⟨rfl, rfl⟩ := he
        refine ⟨back.reverse, front.reverse, ?_, fun e he => hnone e (List.mem_reverse.mp he)⟩
        rw [← List.reverse_reverse record, hrev]
        simp
  · rintro ⟨before, behind, rfl, hnone⟩
    have hbehind : behind.reverse.findSome? Exchange.load? = none :=
      List.findSome?_eq_none_iff.mpr fun e he => hnone e (List.mem_reverse.mp he)
    simp [lastLoad?, List.findSome?_append, hbehind, List.findSome?_cons, Exchange.load?]

namespace Recorder

variable {σ : Type} [ControlChannel σ]

/-- Asking for a menu adds the exchange to the record and asks the channel behind it. -/
lemma getMenu_eq {r r' : Recorder σ} {layer : LayerId} {answer : Except LoadError Menu}
    (h : ControlChannel.getMenu r layer = (answer, r')) :
    ControlChannel.getMenu r.channel layer = (answer, r'.channel) ∧
      r'.exchanges = r.exchanges ++ [.getMenu layer answer] := by
  cases h
  exact ⟨rfl, rfl⟩

/-- Running a command adds the exchange to the record and runs it on the channel behind it. -/
lemma execute_eq {r r' : Recorder σ} {layer : LayerId} {command : CommandId} {args : String}
    {answer : Except ExecError String}
    (h : ControlChannel.execute r layer command args = (answer, r')) :
    ControlChannel.execute r.channel layer command args = (answer, r'.channel) ∧
      r'.exchanges = r.exchanges ++ [.execute layer command args answer] := by
  cases h
  exact ⟨rfl, rfl⟩

end Recorder

namespace Session

variable {σ : Type} [ControlChannel σ]

/-! ### Leaving the record out -/

/-- The exchanges that a session has had, the oldest first. -/
def record (s : Session (Recorder σ)) : List Exchange :=
  s.channel.exchanges

/-- A session without its record. -/
def forget (s : Session (Recorder σ)) : Session σ :=
  { s with channel := s.channel.channel }

/-- Every rule of a recorded session is a rule of the session over the bare channel. -/
lemma Step.forget {s next : Session (Recorder σ)} {line : String} {outcome : Outcome}
    (h : Step s line outcome next) : Step s.forget line outcome next.forget := by
  cases h with
  | blank hsplit => exact .blank hsplit
  | leave hsplit hplace => exact .leave hsplit hplace
  | ascend hsplit hplace => exact .ascend hsplit hplace
  | unresolved hsplit hword hfind => exact .unresolved hsplit hword hfind
  | enter hsplit hword hplace hfind hmenu =>
      exact .enter hsplit hword hplace hfind (Recorder.getMenu_eq hmenu).1
  | refuse hsplit hword hplace hfind hmenu =>
      exact .refuse hsplit hword hplace hfind (Recorder.getMenu_eq hmenu).1
  | run hsplit hword hplace hfind hanswer =>
      exact .run hsplit hword hplace hfind (Recorder.execute_eq hanswer).1

/-- One line leads to the same outcome with and without the record. -/
lemma submit_forget (s : Session (Recorder σ)) (line : String) :
    s.forget.submit line = ((s.submit line).1, (s.submit line).2.forget) :=
  (step_submit s line).forget.submit_eq

/-- A run leaves the same session with and without the record. -/
lemma after_forget (s : Session (Recorder σ)) (lines : List String) :
    s.forget.after lines = (s.after lines).forget := by
  induction lines generalizing s with
  | nil => rfl
  | cons line lines ih =>
      rw [after_cons, after_cons, submit_forget]
      exact ih _

end Session

end DaemonConsole
