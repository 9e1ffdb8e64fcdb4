/-
The rules of a session, and its runs.

A line is handled by one of seven rules. Each rule names what the line and the place have to be and
what the channel answers, so an invariant of sessions is checked rule by rule.

* `Session.Step`: the rules;
* `Session.step_iff`: a session handles a line as exactly one of the rules says;
* `Session.unknownCommand_mem_iff`: which lines are reported as unknown;
* `Session.after`, `Session.outcomes`: the session that a list of lines leaves, and what the lines
  led to; `after_append` and `outcomes_append` split a run in two;
* `Session.after_induction`: what every rule keeps holds after every run;
* `Session.Prompted`, `Session.prompted_after`: the prompt of a session follows its place.
-/
import DaemonConsole.Session
import Mathlib.Tactic.Lemma

namespace DaemonConsole

namespace Session

/-! ### Places -/

section Places

variable {σ : Type} {s : Session σ}

/-- A session whose location is a layer is inside it with the active menu. -/
lemma place_of_location {layer : LayerId} (h : s.location = .layer layer) :
    s.place = .inside layer s.activeMenu := by
  cases hplace : s.place with
  | root => simp [location, hplace] at h
  | inside layer' menu =>
      simp only [location, hplace, Location.layer.injEq] at h
      rw [h, activeMenu, hplace]

/-- A session whose location is the root is there. -/
lemma place_of_location_root (h : s.location = .root) : s.place = .root := by
  cases hplace : s.place with
  | root => rfl
  | inside layer menu => simp [location, hplace] at h

end Places

variable {σ : Type} [ControlChannel σ]

/-! ### The rules -/

/-- The rules by which a line takes a session to an outcome and the next session. -/
inductive Step (s : Session σ) (line : String) : Outcome → Session σ → Prop where
  /-- A blank line. -/
  | blank : Text.splitFirst line = none → Step s line .quiet s
  /-- The exit word at the root ends the console. -/
  | leave {rest : String} : Text.splitFirst line = some (exitWord, rest) → s.place = .root →
      Step s line .exit s
  /-- The exit word inside a layer leads to the root. -/
  | ascend {rest : String} {layer : LayerId} {menu : Menu} :
      Text.splitFirst line = some (exitWord, rest) → s.place = .inside layer menu →
      Step s line .quiet s.enterRoot
  /-- A word that the active menu does not have. -/
  | unresolved {word rest : String} : Text.splitFirst line = some (word, rest) →
      word ≠ exitWord → s.activeMenu.find? word = none →
      Step s line (.ofReport (.unknownCommand word)) s
  /-- A layer whose menu arrives is entered. -/
  | enter {word rest : String} {command : Command} {menu : Menu} {channel : σ} :
      Text.splitFirst line = some (word, rest) → word ≠ exitWord → s.place = .root →
      s.rootMenu.find? word = some command →
      ControlChannel.getMenu s.channel command.id = (.ok menu, channel) →
      Step s line .quiet
        { s with place := .inside command.id menu, prompt := s.layerPrompt command.id, channel }
  /-- A layer whose menu does not arrive is not entered. -/
  | refuse {word rest : String} {command : Command} {fault : LoadError} {channel : σ} :
      Text.splitFirst line = some (word, rest) → word ≠ exitWord → s.place = .root →
      s.rootMenu.find? word = some command →
      ControlChannel.getMenu s.channel command.id = (.error fault, channel) →
      Step s line (.ofReport (.loadFailed (s.layerName command.id) fault.message))
        { s.enterRoot with channel }
  /-- A command of the entered layer is sent with its arguments. -/
  | run {word rest : String} {layer : LayerId} {menu : Menu} {command : Command}
      {answer : Except ExecError String} {channel : σ} :
      Text.splitFirst line = some (word, rest) → word ≠ exitWord →
      s.place = .inside layer menu → menu.find? word = some command →
      ControlChannel.execute s.channel layer command.id rest = (answer, channel) →
      Step s line (outcomeOf command answer) { s with channel }

/-- Whether the menu arrives or not, a load leaves the channel as its request does. -/
lemma channel_load (s : Session σ) (layer : LayerId) :
    (s.load layer).2.channel = (ControlChannel.getMenu s.channel layer).2 := by
  simp only [load, enterRoot]
  split
  · next hmenu => rw [hmenu]
  · next hmenu => rw [hmenu]

/-- Every rule is what `submit` computes. -/
lemma Step.submit_eq {s next : Session σ} {line : String} {outcome : Outcome}
    (h : Step s line outcome next) : s.submit line = (outcome, next) := by
  cases h with
  | blank hsplit => simp [submit, interpret, perform, hsplit]
  | leave hsplit hplace => simp [submit, interpret, perform, hsplit, hplace]
  | ascend hsplit hplace => simp [submit, interpret, perform, hsplit, hplace]
  | unresolved hsplit hword hfind => simp [submit, interpret, perform, hsplit, hword, hfind]
  | enter hsplit hword hplace hfind hmenu =>
      simp [submit, interpret, perform, load, enterRoot, layerPrompt, layerName, activeMenu, hsplit,
        hword, hplace, hfind, hmenu]
  | refuse hsplit hword hplace hfind hmenu =>
      simp [submit, interpret, perform, load, enterRoot, layerName, activeMenu, hsplit, hword, hplace,
        hfind, hmenu]
  | run hsplit hword hplace hfind hanswer =>
      simp [submit, interpret, perform, activeMenu, hsplit, hword, hplace, hfind, hanswer]

/-- Every line is handled by some rule. -/
lemma exists_step (s : Session σ) (line : String) : ∃ outcome next, Step s line outcome next := by
  cases hsplit : Text.splitFirst line with
  | none => exact ⟨_, _, .blank hsplit⟩
  | some split =>
      obtain ⟨word, rest⟩ := split
      by_cases hword : word = exitWord
      · subst hword
        cases hplace : s.place with
        | root => exact ⟨_, _, .leave hsplit hplace⟩
        | inside layer menu => exact ⟨_, _, .ascend hsplit hplace⟩
      · cases hfind : s.activeMenu.find? word with
        | none => exact ⟨_, _, .unresolved hsplit hword hfind⟩
        | some command =>
            cases hplace : s.place with
            | root =>
                rw [activeMenu, hplace] at hfind
                rcases hmenu : ControlChannel.getMenu s.channel command.id with ⟨menu | fault, channel⟩
                · exact ⟨_, _, .refuse hsplit hword hplace hfind hmenu⟩
                · exact ⟨_, _, .enter hsplit hword hplace hfind hmenu⟩
            | inside layer menu =>
                rw [activeMenu, hplace] at hfind
                exact ⟨_, _, .run hsplit hword hplace hfind rfl⟩

/-- A session handles a line as the rules say. -/
lemma step_submit (s : Session σ) (line : String) :
    Step s line (s.submit line).1 (s.submit line).2 := by
  obtain ⟨outcome, next, h⟩ := exists_step s line
  rw [h.submit_eq]
  exact h

/-- **The rules are the session**: a line leads to an outcome and a next session by a rule exactly
when `submit` gives them. -/
theorem step_iff {s next : Session σ} {line : String} {outcome : Outcome} :
    Step s line outcome next ↔ s.submit line = (outcome, next) := by
  refine ⟨Step.submit_eq, fun h => ?_⟩
  have hstep := step_submit s line
  rw [h] at hstep
  exact hstep

/-- What a command is reported by: its output, its refusal, or that it was not delivered. -/
lemma mem_reports_outcomeOf {command : Command} {answer : Except ExecError String} {r : Report}
    (h : r ∈ (outcomeOf command answer).reports) :
    (∃ text, r = .output text) ∨
      (∃ reason, r = .commandFailed command.name reason command.description) ∨
        ∃ reason, r = .sendFailed reason := by
  unfold outcomeOf at h
  split at h
  · split at h
    · cases h
    · exact .inl ⟨_, List.mem_singleton.mp h⟩
  · exact .inr (.inl ⟨_, List.mem_singleton.mp h⟩)
  · exact .inr (.inr ⟨_, List.mem_singleton.mp h⟩)

/-- A line is reported as an unknown command by its word, if that is not the exit word and the active
menu does not have it. -/
lemma unknownCommand_mem_iff {s : Session σ} {line name : String} :
    .unknownCommand name ∈ (s.submit line).1.reports ↔
      (∃ rest, Text.splitFirst line = some (name, rest)) ∧ name ≠ exitWord ∧
        s.activeMenu.find? name = none := by
  constructor
  · obtain ⟨outcome, next, hstep⟩ := exists_step s line
    rw [hstep.submit_eq]
    intro h
    cases hstep with
    | blank => cases h
    | leave => cases h
    | ascend => cases h
    | unresolved hsplit hword hfind =>
        cases List.mem_singleton.mp h
        exact ⟨⟨_, hsplit⟩, hword, hfind⟩
    | enter => cases h
    | refuse => cases List.mem_singleton.mp h
    | run => rcases mem_reports_outcomeOf h with ⟨_, h⟩ | ⟨_, h⟩ | ⟨_, h⟩ <;> cases h
  · rintro ⟨⟨rest, hsplit⟩, hword, hfind⟩
    rw [(Step.unresolved hsplit hword hfind).submit_eq]
    exact List.mem_cons_self

/-! ### Runs -/

/-- The session that a list of lines leaves. -/
def after (s : Session σ) (lines : List String) : Session σ :=
  (s.submitAll lines).2

/-- What each line of a list led to. -/
def outcomes (s : Session σ) (lines : List String) : List Outcome :=
  (s.submitAll lines).1

@[simp] lemma after_nil (s : Session σ) : s.after [] = s := rfl

@[simp] lemma after_cons (s : Session σ) (line : String) (lines : List String) :
    s.after (line :: lines) = (s.submit line).2.after lines := rfl

@[simp] lemma outcomes_nil (s : Session σ) : s.outcomes [] = [] := rfl

@[simp] lemma outcomes_cons (s : Session σ) (line : String) (lines : List String) :
    s.outcomes (line :: lines) = (s.submit line).1 :: (s.submit line).2.outcomes lines := rfl

/-- A run goes on from where its first part ends. -/
lemma after_append (s : Session σ) (xs ys : List String) :
    s.after (xs ++ ys) = (s.after xs).after ys := by
  induction xs generalizing s with
  | nil => rfl
  | cons line xs ih => exact ih _

/-- The outcomes of a run are those of its two parts. -/
lemma outcomes_append (s : Session σ) (xs ys : List String) :
    s.outcomes (xs ++ ys) = s.outcomes xs ++ (s.after xs).outcomes ys := by
  induction xs generalizing s with
  | nil => rfl
  | cons line xs ih => exact congrArg ((s.submit line).1 :: ·) (ih _)

/-- What every rule keeps holds after every run. -/
theorem after_induction {P : Session σ → Prop} {s : Session σ} (hs : P s)
    (hstep : ∀ {s next : Session σ} {line : String} {outcome : Outcome},
      Step s line outcome next → P s → P next)
    (lines : List String) : P (s.after lines) := by
  induction lines generalizing s with
  | nil => exact hs
  | cons line lines ih => exact ih (hstep (step_submit s line) hs)

/-! ### The prompt -/

/-- The prompt that goes with the place: that of the root, or that of the layer. -/
def placePrompt {σ : Type} (s : Session σ) : String :=
  match s.place with
  | .root => s.product ++ "# "
  | .inside layer _ => s.layerPrompt layer

/-- The prompt of a session is the one that goes with its place. -/
def Prompted {σ : Type} (s : Session σ) : Prop :=
  s.prompt = s.placePrompt

lemma prompted_start {σ : Type} (root : Menu) (channel : σ) (product : String) :
    (start root channel product).Prompted := rfl

/-- A rule that writes the place writes the prompt with it. A load that fails has written the prompt
of the root by then, which is where the session was. -/
lemma Prompted.step {s next : Session σ} {line : String} {outcome : Outcome} (h : s.Prompted)
    (hstep : Step s line outcome next) : next.Prompted := by
  cases hstep with
  | blank | leave | unresolved | run => exact h
  | ascend | enter | refuse => rfl

/-- **The prompt follows the place** in every run. -/
theorem prompted_after (root : Menu) (channel : σ) (product : String) (lines : List String) :
    ((start root channel product).after lines).Prompted :=
  after_induction (prompted_start root channel product) (fun hstep h => h.step hstep) lines

namespace Prompted

variable {σ : Type} {s : Session σ} (h : s.Prompted)

include h

lemma at_root (hloc : s.location = .root) : s.prompt = s.product ++ "# " := by
  rw [h, placePrompt, place_of_location_root hloc]

lemma in_layer {layer : LayerId} (hloc : s.location = .layer layer) :
    s.prompt = s.layerPrompt layer := by
  rw [h, placePrompt, place_of_location hloc]

end Prompted

end Session

end DaemonConsole
