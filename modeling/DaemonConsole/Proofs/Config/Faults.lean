/-
The fault that validation names.

What a configuration has to satisfy is said without the scan, of all its layers at once: identifiers
and names are distinct, and each layer obeys the rules on its name and its description. A
configuration that does not is refused with one fault, and which one is said here too: a blank
product comes first, then the first layer that breaks a rule against itself or the layers before it,
and of the rules which it breaks the one that ranks first.

* `LayerName`: the texts that may name a layer, and `isLayerName_iff`: these pass the check;
* `Config.Sound`: the conditions, and `Config.wellFormed_iff_sound`;
* `LayerSettings.Breaks`, `ConfigFault.rank`: the rules that a layer breaks, and their order;
* `LayerSettings.fault?_eq_some_iff`: the fault of a layer is the broken rule that ranks first;
* `Config.FirstFault`: the fault of a configuration;
* `Config.validate_names_first_fault`: what is accepted, what is said of the rest, and that the order
  of the layers decides no acceptance.
-/
import DaemonConsole.Proofs.Config.WellFormed
import Mathlib.Data.List.Nodup
import Mathlib.Data.List.Perm.Basic

namespace DaemonConsole

/-! ### Conditions -/

/-- A text that may name a layer: an ASCII letter, then ASCII letters, digits, `_`, `.` and `-`, with
at most 32 characters in all. -/
def LayerName (name : String) : Prop :=
  ∃ first rest, name.toList = first :: rest ∧ first.isAlpha = true ∧
    (∀ c ∈ rest, c.isAlphanum = true ∨ c = '_' ∨ c = '.' ∨ c = '-') ∧ name.length ≤ 32

/-- These texts pass the check of a name, and no others. -/
lemma isLayerName_iff {name : String} : isLayerName name = true ↔ LayerName name := by
  have hchar : ∀ c, isNameChar c = true ↔ c.isAlphanum = true ∨ c = '_' ∨ c = '.' ∨ c = '-' := by
    intro c
    simp only [isNameChar, Bool.or_eq_true, decide_eq_true_eq, or_assoc]
  rw [isLayerName, LayerName]
  cases hname : name.toList with
  | nil => simp
  | cons first rest =>
      simp only [Bool.and_eq_true, List.all_eq_true, decide_eq_true_eq, hchar]
      constructor
      · rintro ⟨⟨hfirst, hrest⟩, hlength⟩
        exact ⟨first, rest, rfl, hfirst, hrest, hlength⟩
      · rintro ⟨_, _, heq, hfirst, hrest, hlength⟩
        cases heq
        exact ⟨⟨hfirst, hrest⟩, hlength⟩

/-- The conditions on a configuration. -/
structure Config.Sound (c : Config) : Prop where
  product : ∃ char ∈ c.console.product.toList, Text.isBlank char = false
  ids : (c.layers.map (·.id)).Nodup
  names : (c.layers.map (·.name)).Nodup
  reserved : ∀ l ∈ c.layers, l.name ≠ "exit"
  shaped : ∀ l ∈ c.layers, LayerName l.name
  described : ∀ l ∈ c.layers, (l.description.getD l.kind.description).length ≤ 64

/-- Layers are apart from one another if their identifiers are distinct and so are their names. -/
lemma pairwise_apart_iff {layers : List LayerSettings} :
    layers.Pairwise LayerSettings.Apart ↔
      (layers.map (·.id)).Nodup ∧ (layers.map (·.name)).Nodup := by
  rw [List.Nodup, List.Nodup, List.pairwise_map, List.pairwise_map, ← List.pairwise_and_iff]
  rfl

/-- The conditions hold of the well-formed configurations. -/
lemma Config.wellFormed_iff_sound {c : Config} : c.WellFormed ↔ c.Sound := by
  constructor
  · rintro ⟨hproduct, hok, hapart⟩
    obtain ⟨hids, hnames⟩ := pairwise_apart_iff.mp hapart
    exact ⟨Text.isAllBlank_eq_false_iff.mp hproduct, hids, hnames, fun l hl => (hok l hl).name_ne_exit,
      fun l hl => isLayerName_iff.mp (hok l hl).name_ok, fun l hl => (hok l hl).description_le⟩
  · rintro ⟨hproduct, hids, hnames, hreserved, hshaped, hdescribed⟩
    refine ⟨Text.isAllBlank_eq_false_iff.mpr hproduct, fun l hl => ?_,
      pairwise_apart_iff.mpr ⟨hids, hnames⟩⟩
    exact ⟨hreserved l hl, isLayerName_iff.mpr (hshaped l hl), hdescribed l hl⟩

/-- The conditions do not depend on the order of the layers. -/
lemma Config.Sound.of_perm {c d : Config} (hproduct : d.console.product = c.console.product)
    (hlayers : d.layers.Perm c.layers) (h : c.Sound) : d.Sound where
  product := hproduct ▸ h.product
  ids := (hlayers.map _).nodup_iff.mpr h.ids
  names := (hlayers.map _).nodup_iff.mpr h.names
  reserved l hl := h.reserved l (hlayers.mem_iff.mp hl)
  shaped l hl := h.shaped l (hlayers.mem_iff.mp hl)
  described l hl := h.described l (hlayers.mem_iff.mp hl)

/-! ### Broken rules -/

/-- A layer behind others breaks a rule, which the fault names. -/
inductive LayerSettings.Breaks (before : List LayerSettings) (l : LayerSettings) :
    ConfigFault → Prop
  | id {b : LayerSettings} (hb : b ∈ before) (h : b.id = l.id) : Breaks before l (.duplicateId l.id)
  | name {b : LayerSettings} (hb : b ∈ before) (h : b.name = l.name) :
    Breaks before l (.duplicateName l.name)
  | reserved (h : l.name = "exit") : Breaks before l .reservedName
  | malformed (h : ¬ LayerName l.name) : Breaks before l (.malformedName l.name)
  | long (h : 64 < (l.description.getD l.kind.description).length) :
    Breaks before l (.descriptionTooLong l.name)

/-- The order of the rules. -/
def ConfigFault.rank : ConfigFault → Nat
  | blankProduct => 0
  | duplicateId _ => 1
  | duplicateName _ => 2
  | reservedName => 3
  | malformedName _ => 4
  | descriptionTooLong _ => 5

namespace LayerSettings

variable {before : List LayerSettings} {l : LayerSettings} {f g : ConfigFault}

/-- Broken rules of one rank are the same. -/
lemma Breaks.eq_of_rank (hf : l.Breaks before f) (hg : l.Breaks before g)
    (h : f.rank = g.rank) : f = g := by
  cases hf <;> cases hg <;> first | rfl | cases h

/-- The fault of a layer is a rule that it breaks. -/
lemma breaks_of_fault? (h : l.fault? before = some f) : l.Breaks before f := by
  rw [fault?] at h
  split_ifs at h with hid hname hexit hshape hlong
  all_goals cases h
  · obtain ⟨b, hb, heq⟩ := List.any_eq_true.mp hid
    exact .id hb (beq_iff_eq.mp heq)
  · obtain ⟨b, hb, heq⟩ := List.any_eq_true.mp hname
    exact .name hb (beq_iff_eq.mp heq)
  · exact .reserved hexit
  · have hnot : isLayerName l.name = false := by simpa using hshape
    exact .malformed fun hok => Bool.false_ne_true (hnot.symm.trans (isLayerName_iff.mpr hok))
  · exact .long hlong

/-- A layer that breaks a rule has a fault, and the rule does not rank before it. -/
lemma Breaks.exists_fault? (h : l.Breaks before g) :
    ∃ f, l.fault? before = some f ∧ f.rank ≤ g.rank := by
  rw [fault?]
  cases h with
  | id hb h =>
      have hid : before.any (·.id == l.id) = true :=
        List.any_eq_true.mpr ⟨_, hb, beq_iff_eq.mpr h⟩
      rw [if_pos hid]
      exact ⟨_, rfl, Nat.le_refl _⟩
  | name hb h =>
      have hname : before.any (·.name == l.name) = true :=
        List.any_eq_true.mpr ⟨_, hb, beq_iff_eq.mpr h⟩
      rw [if_pos hname]
      split <;> exact ⟨_, rfl, by simp [ConfigFault.rank]⟩
  | reserved h =>
      have hexit : l.name = exitWord := h
      rw [if_pos hexit]
      split_ifs <;> exact ⟨_, rfl, by simp [ConfigFault.rank]⟩
  | malformed h =>
      have hshape : (!isLayerName l.name) = true := by
        simpa using fun hok => h (isLayerName_iff.mp hok)
      rw [if_pos hshape]
      split_ifs <;> exact ⟨_, rfl, by simp [ConfigFault.rank]⟩
  | long h =>
      have hlong : Command.maxDescriptionLength < l.effectiveDescription.length := h
      rw [if_pos hlong]
      split_ifs <;> exact ⟨_, rfl, by simp [ConfigFault.rank]⟩

/-- A layer has no fault if it breaks no rule. -/
lemma fault?_eq_none_iff_not_breaks : l.fault? before = none ↔ ∀ f, ¬ l.Breaks before f := by
  constructor
  · intro hnone f hf
    obtain ⟨g, hg, -⟩ := hf.exists_fault?
    rw [hnone] at hg
    cases hg
  · intro hnone
    exact Option.eq_none_iff_forall_ne_some.mpr fun f hf => hnone f (breaks_of_fault? hf)

/-- **The fault of a layer** is the rule that ranks first of those it breaks. -/
theorem fault?_eq_some_iff : l.fault? before = some f ↔
    l.Breaks before f ∧ ∀ g, l.Breaks before g → f.rank ≤ g.rank := by
  constructor
  · intro h
    refine ⟨breaks_of_fault? h, fun g hg => ?_⟩
    obtain ⟨f', hf', hle⟩ := hg.exists_fault?
    rw [h] at hf'
    cases hf'
    exact hle
  · rintro ⟨hf, hfirst⟩
    obtain ⟨g, hg, hle⟩ := hf.exists_fault?
    have hbreaks := breaks_of_fault? hg
    rw [hg, hbreaks.eq_of_rank hf (Nat.le_antisymm hle (hfirst g hbreaks))]

end LayerSettings

/-! ### The first fault -/

namespace LayerSettings

/-- No layer of a list breaks a rule against itself and those before it, others being in front. -/
def AllObey (before layers : List LayerSettings) : Prop :=
  ∀ earlier l later, layers = earlier ++ l :: later → ∀ g, ¬ l.Breaks (before ++ earlier) g

/-- The fault of a list of layers, others being in front: the rule that ranks first of those that a
layer breaks, none being broken before that layer. -/
def FirstFault (before layers : List LayerSettings) (f : ConfigFault) : Prop :=
  ∃ earlier l later, layers = earlier ++ l :: later ∧ AllObey before earlier ∧
    l.Breaks (before ++ earlier) f ∧ ∀ g, l.Breaks (before ++ earlier) g → f.rank ≤ g.rank

variable {before rest : List LayerSettings} {l : LayerSettings} {f : ConfigFault}

/-- The first layer obeys the rules, and so do the others behind it. -/
lemma allObey_cons : AllObey before (l :: rest) ↔
    (∀ g, ¬ l.Breaks before g) ∧ AllObey (before ++ [l]) rest := by
  constructor
  · intro h
    refine ⟨by simpa using h [] l rest rfl, ?_⟩
    rintro earlier k later rfl
    simpa using h (l :: earlier) k later rfl
  · rintro ⟨hl, hrest⟩ earlier k later heq
    cases earlier with
    | nil =>
        cases heq
        simpa using hl
    | cons e earlier =>
        cases heq
        simpa using hrest earlier k later rfl

/-- The fault is that of the first layer, or this one obeys the rules and the fault is that of the
others behind it. -/
lemma firstFault_cons : FirstFault before (l :: rest) f ↔
    (l.Breaks before f ∧ ∀ g, l.Breaks before g → f.rank ≤ g.rank) ∨
      ((∀ g, ¬ l.Breaks before g) ∧ FirstFault (before ++ [l]) rest f) := by
  constructor
  · rintro ⟨earlier, k, later, heq, hobey, hfault⟩
    cases earlier with
    | nil =>
        cases heq
        exact .inl (by simpa using hfault)
    | cons e earlier =>
        cases heq
        obtain ⟨hl, hrest⟩ := allObey_cons.mp hobey
        exact .inr ⟨hl, earlier, k, later, rfl, hrest, by simpa using hfault⟩
  · rintro (hfault | ⟨hl, earlier, k, later, rfl, hrest, hfault⟩)
    · exact ⟨[], l, rest, rfl, fun earlier k later heq => by simp at heq, by simpa using hfault⟩
    · exact ⟨l :: earlier, k, later, rfl, allObey_cons.mpr ⟨hl, hrest⟩, by simpa using hfault⟩

end LayerSettings

/-- The scan gives the fault of the layers. -/
lemma firstFault?_eq_some_iff {before layers : List LayerSettings} {f : ConfigFault} :
    firstFault? before layers = some f ↔ LayerSettings.FirstFault before layers f := by
  induction layers generalizing before with
  | nil => simp [firstFault?, LayerSettings.FirstFault]
  | cons l rest ih =>
      rw [firstFault?, LayerSettings.firstFault_cons, ← LayerSettings.fault?_eq_some_iff,
        ← LayerSettings.fault?_eq_none_iff_not_breaks, ← ih]
      cases l.fault? before <;> simp

namespace Config

/-- The fault of a configuration: a blank product, and otherwise that of its layers. -/
inductive FirstFault (c : Config) : ConfigFault → Prop
  | blank (h : ∀ char ∈ c.console.product.toList, Text.isBlank char = true) :
    FirstFault c .blankProduct
  | layer {f : ConfigFault} (h : ∃ char ∈ c.console.product.toList, Text.isBlank char = false)
    (hf : LayerSettings.FirstFault [] c.layers f) : FirstFault c f

/-- Validation refuses a configuration with its fault. -/
lemma validate_eq_error_iff {c : Config} {f : ConfigFault} :
    c.validate = .error f ↔ c.FirstFault f := by
  rw [validate]
  cases hproduct : Text.isAllBlank c.console.product with
  | true =>
      have hblank : ∀ char ∈ c.console.product.toList, Text.isBlank char = true :=
        Text.isAllBlank_iff.mp hproduct
      constructor
      · intro h
        cases h
        exact .blank hblank
      · rintro (- | ⟨⟨char, hmem, hshows⟩, -⟩)
        · rfl
        · rw [hblank char hmem] at hshows
          cases hshows
  | false =>
      obtain ⟨char, hmem, hshows⟩ := Text.isAllBlank_eq_false_iff.mp hproduct
      have hscan : c.FirstFault f ↔ firstFault? [] c.layers = some f := by
        rw [firstFault?_eq_some_iff]
        constructor
        · rintro (hblank | ⟨-, hf⟩)
          · rw [hblank char hmem] at hshows
            cases hshows
          · exact hf
        · exact .layer ⟨char, hmem, hshows⟩
      rw [hscan]
      cases firstFault? [] c.layers <;> simp

/-- **Validation accepts exactly the configurations that meet the conditions**, whatever the order of
their layers, and refuses every other one with its first fault. -/
theorem validate_names_first_fault (c : Config) :
    (c.validate = .ok () ↔ c.Sound) ∧ (∀ f, c.validate = .error f ↔ c.FirstFault f) ∧
      ∀ d : Config, d.console.product = c.console.product → d.layers.Perm c.layers →
        (d.validate = .ok () ↔ c.validate = .ok ()) := by
  have haccepts : ∀ c : Config, c.validate = .ok () ↔ c.Sound := fun c =>
    validate_eq_ok_iff.trans wellFormed_iff_sound
  refine ⟨haccepts c, fun f => validate_eq_error_iff, fun d hproduct hlayers => ?_⟩
  rw [haccepts d, haccepts c]
  exact ⟨.of_perm hproduct.symm hlayers.symm, .of_perm hproduct hlayers⟩

-- a repeated identifier is named before the reserved name of the same layer
example : Config.validate { layers := [⟨1, "lan", .link, none, true⟩, ⟨1, "exit", .net, none, true⟩] }
    = .error (.duplicateId 1) := by decide

end Config

end DaemonConsole
