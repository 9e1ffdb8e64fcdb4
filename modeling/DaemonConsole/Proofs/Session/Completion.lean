/-
What is offered can be typed, and what can be typed is offered.

Completion walks through the active menu; a typed line is cut into its word and the rest, and the word
is looked up. Both go by the same words as long as the commands of the menu passed their check, by
which their names can be typed as one word.

* `Session.Understands`: a line that is not reported as unknown;
* `Session.word_of_mem_complete`: what is offered can be typed as one word;
* `Session.complete_agrees`: completion offers exactly the words that are understood.
-/
import DaemonConsole.Channel.Daemon
import DaemonConsole.Proofs.Menu.Completion
import DaemonConsole.Proofs.Session.Step

namespace DaemonConsole

namespace Session

variable {σ : Type}

/-! ### What is offered -/

/-- What is offered starts with the stem and is the exit word or a name that is found. -/
lemma mem_complete_iff {s : Session σ} {stem name : String} : name ∈ s.complete stem ↔
    stem.toList <+: name.toList ∧ (name = exitWord ∨ ∃ c, s.activeMenu.find? name = some c) :=
  Completion.mem_candidates_iff

/-- What is offered can be typed as one word. -/
lemma word_of_mem_complete {s : Session σ} {stem name : String}
    (hmenu : ∀ c ∈ s.activeMenu.commands, c.Valid) (h : name ∈ s.complete stem) :
    name ≠ "" ∧ Text.hasBlank name = false :=
  Completion.word_of_mem_candidates hmenu h

section Lines

variable [ControlChannel σ] {s : Session σ} {line : String}

/-- A line is understood if it is not reported as an unknown command. -/
def Understands (s : Session σ) (line : String) : Prop :=
  ∀ name, .unknownCommand name ∉ (s.submit line).1.reports

/-- A line is understood if its word is the exit word or is found in the active menu. -/
lemma understands_iff {word rest : String} (hsplit : Text.splitFirst line = some (word, rest)) :
    s.Understands line ↔ word = exitWord ∨ ∃ c, s.activeMenu.find? word = some c := by
  have hword : s.Understands line ↔ ¬(word ≠ exitWord ∧ s.activeMenu.find? word = none) := by
    constructor
    · exact fun h hunknown => h word (unknownCommand_mem_iff.mpr ⟨⟨rest, hsplit⟩, hunknown⟩)
    · intro h name hname
      obtain ⟨⟨_, hsplit'⟩, hunknown⟩ := unknownCommand_mem_iff.mp hname
      rw [hsplit] at hsplit'
      cases hsplit'
      exact h hunknown
  rw [hword, ← Option.isSome_iff_exists, ← Option.not_isSome_iff_eq_none]
  tauto

/-! ### Completion and typed lines -/

/-- **Completion and typed lines agree**: in every session whose active menu holds commands that
passed their check,

* exactly the exit word and the words that the menu finds are offered, each for all its stems;
* what is offered is read back from a line that has blanks around it and any arguments behind these,
  and such a line is understood;
* the word of a line that is understood is offered for all its stems;
* nothing is offered twice if the names of the menu are distinct. -/
theorem complete_agrees (s : Session σ)
    (hmenu : ∀ c ∈ s.activeMenu.commands, Command.make c.id c.name c.description = .ok c) :
    (∀ stem name, name ∈ s.complete stem ↔
      stem.toList <+: name.toList ∧ (name = exitWord ∨ ∃ c, s.activeMenu.find? name = some c)) ∧
    (∀ stem, ∀ name ∈ s.complete stem, ∀ before gap args : String,
      Text.isAllBlank before = true → Text.isAllBlank gap = true → (gap = "" → args = "") →
        Text.splitFirst (before ++ name ++ gap ++ args) = some (name, Text.trim args) ∧
          s.Understands (before ++ name ++ gap ++ args)) ∧
    (∀ line, Text.isAllBlank line = false → s.Understands line →
      ∃ word rest, Text.splitFirst line = some (word, rest) ∧
        ∀ stem : String, stem.toList <+: word.toList → word ∈ s.complete stem) ∧
    (s.activeMenu.names.Nodup → ∀ stem, (s.complete stem).Nodup) := by
  have hvalid : ∀ c ∈ s.activeMenu.commands, c.Valid :=
    fun c hc => Command.make_eq_ok_iff.mp (hmenu c hc)
  refine ⟨fun stem name => mem_complete_iff, ?_, ?_, Completion.nodup_candidates⟩
  · intro stem name hname before gap args hbefore hgap hargs
    obtain ⟨hne, hword⟩ := word_of_mem_complete hvalid hname
    have hsplit := Text.splitFirst_append hbefore hword hne hgap hargs
    exact ⟨hsplit, (understands_iff hsplit).mpr (mem_complete_iff.mp hname).2⟩
  · intro line hline hunderstood
    obtain ⟨word, rest, hsplit⟩ := Text.exists_splitFirst hline
    have hfound := (understands_iff hsplit).mp hunderstood
    exact ⟨word, rest, hsplit, fun stem hstem => mem_complete_iff.mpr ⟨hstem, hfound⟩⟩

/-- A menu that has the exit word among its names, and a name beyond the ASCII characters. -/
def crowdedMenu : Menu :=
  ⟨[⟨1, "link", "interfaces"⟩, ⟨2, "exit", "never found"⟩, ⟨3, "états", ""⟩]⟩

/-- Over this menu the exit word is offered once, and typed between wide blanks it is understood. -/
theorem crowdedMenu_offers_exit :
    let s := start crowdedMenu Daemon.empty "stackd"
    (∀ c ∈ s.activeMenu.commands, Command.make c.id c.name c.description = .ok c) ∧
      "exit" ∈ s.complete "ex" ∧ (s.complete "ex").Nodup ∧
        Text.splitFirst "\u3000exit\u2003 now" = some ("exit", "now") ∧
          s.Understands "\u3000exit\u2003 now" := by
  intro s
  have hmenu : ∀ c ∈ s.activeMenu.commands, Command.make c.id c.name c.description = .ok c := by
    intro c hc
    exact Command.make_eq_ok_iff.mpr
      ((by decide : ∀ c ∈ crowdedMenu.commands, c.Valid) c hc)
  obtain ⟨hoffer, hread, -, honce⟩ := complete_agrees s hmenu
  have hexit : "exit" ∈ s.complete "ex" := (hoffer "ex" "exit").mpr ⟨by decide, .inl rfl⟩
  obtain ⟨hsplit, hunderstood⟩ :=
    hread "ex" "exit" hexit "\u3000" "\u2003 " "now" (by decide) (by decide) (by decide)
  exact ⟨hmenu, hexit, honce (by decide) "ex", hsplit, hunderstood⟩

end Lines

end Session

end DaemonConsole
