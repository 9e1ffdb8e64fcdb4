/-
Well-formed configurations and the root menu they give.

Validation scans the layers once, each against those before it. What it accepts is said here without
the scan: a product name that shows, layers that are well formed on their own, and no two of them
with the same identifier or name. Such a configuration has a root menu, in which a layer is found
under its name and under its identifier, and nothing else is.

* `Config.WellFormed`: such a configuration;
* `Config.validate_eq_ok_iff`: validation accepts the well-formed configurations;
* `Config.WellFormed.rootMenu_eq`: the root menu lists every layer with its effective description;
* `Config.WellFormed.find?_eq`, `Config.WellFormed.findById?_eq`, `LayerSettings.of_find?`: what is
  found in it.
-/
import DaemonConsole.Config.Validation
import DaemonConsole.Proofs.Menu.Lookup
import DaemonConsole.Proofs.Text.Split
import Mathlib.Data.List.Pairwise
import Mathlib.Tactic.Lemma
import Mathlib.Tactic.SplitIfs

namespace DaemonConsole

/-! ### What is well formed -/

/-- Two layers that neither share an identifier nor a name. -/
def LayerSettings.Apart (a b : LayerSettings) : Prop :=
  a.id ≠ b.id ∧ a.name ≠ b.name

instance : Std.Symm LayerSettings.Apart where
  symm _ _ h := ⟨h.1.symm, h.2.symm⟩

/-- A layer that may stand in a configuration on its own. -/
structure LayerSettings.WellFormed (l : LayerSettings) : Prop where
  name_ne_exit : l.name ≠ exitWord
  name_ok : isLayerName l.name = true
  description_le : l.effectiveDescription.length ≤ Command.maxDescriptionLength

/-- A configuration whose product name shows, whose layers are well formed and apart. -/
structure Config.WellFormed (c : Config) : Prop where
  product_shows : Text.isAllBlank c.console.product = false
  layers_ok : ∀ l ∈ c.layers, l.WellFormed
  apart : c.layers.Pairwise LayerSettings.Apart

/-! ### Validation accepts what is well formed -/

/-- A layer has no fault if it is apart from those before it and well formed. -/
lemma LayerSettings.fault?_eq_none_iff {before : List LayerSettings} {l : LayerSettings} :
    l.fault? before = none ↔ (∀ b ∈ before, b.Apart l) ∧ l.WellFormed := by
  constructor
  · intro h
    rw [fault?] at h
    split_ifs at h with hid hname hexit hok hlong
    simp only [List.any_eq_true, beq_iff_eq, not_exists, not_and] at hid hname
    exact ⟨fun b hb => ⟨hid b hb, hname b hb⟩, hexit, by simpa using hok, by omega⟩
  · rintro ⟨hapart, hexit, hok, hlong⟩
    have hid : before.any (·.id == l.id) = false := by
      simpa using fun b hb => (hapart b hb).1
    have hname : before.any (·.name == l.name) = false := by
      simpa using fun b hb => (hapart b hb).2
    have hshort : ¬ Command.maxDescriptionLength < l.effectiveDescription.length := by omega
    simp [fault?, hid, hname, hexit, hok, hshort]

/-- The scan finds no fault behind some layers if all behind them are well formed, and apart from
one another and from those. -/
lemma firstFault?_eq_none_iff {before layers : List LayerSettings} :
    firstFault? before layers = none ↔
      (∀ l ∈ layers, l.WellFormed) ∧ layers.Pairwise LayerSettings.Apart ∧
        ∀ b ∈ before, ∀ l ∈ layers, b.Apart l := by
  induction layers generalizing before with
  | nil => simp [firstFault?]
  | cons l rest ih =>
      have hscan : firstFault? before (l :: rest) = none ↔
          l.fault? before = none ∧ firstFault? (before ++ [l]) rest = none := by
        rw [firstFault?]
        cases l.fault? before <;> simp
      rw [hscan, LayerSettings.fault?_eq_none_iff, ih, List.pairwise_cons, List.forall_mem_cons]
      constructor
      · rintro ⟨⟨hbefore, hl⟩, hrest, hpair, happend⟩
        refine ⟨⟨hl, hrest⟩, ⟨happend l (by simp), hpair⟩, fun b hb => ?_⟩
        exact List.forall_mem_cons.mpr ⟨hbefore b hb, happend b (by simp [hb])⟩
      · rintro ⟨⟨hl, hrest⟩, ⟨hhead, hpair⟩, hbefore⟩
        refine ⟨⟨fun b hb => hbefore b hb l List.mem_cons_self, hl⟩, hrest, hpair, ?_⟩
        intro b hb
        rcases List.mem_append.mp hb with hb | hb
        · exact fun x hx => hbefore b hb x (List.mem_cons_of_mem _ hx)
        · rw [List.mem_singleton.mp hb]
          exact hhead

namespace Config

/-- **Validation accepts exactly the well-formed configurations.** -/
theorem validate_eq_ok_iff {c : Config} : c.validate = .ok () ↔ c.WellFormed := by
  have hscan : c.validate = .ok () ↔
      Text.isAllBlank c.console.product = false ∧ firstFault? [] c.layers = none := by
    rw [validate]
    cases Text.isAllBlank c.console.product with
    | true => simp
    | false => cases firstFault? [] c.layers <;> simp
  rw [hscan, firstFault?_eq_none_iff]
  constructor
  · rintro ⟨hproduct, hok, hapart, -⟩
    exact ⟨hproduct, hok, hapart⟩
  · rintro ⟨hproduct, hok, hapart⟩
    exact ⟨hproduct, hok, hapart, by simp⟩

end Config

/-! ### The root menu -/

/-- The command that a layer has in the root menu. -/
def LayerSettings.command (l : LayerSettings) : Command :=
  ⟨l.id, l.name, l.effectiveDescription⟩

/-- A character between two others lies between their numbers. -/
lemma toNat_between {a b c : Char} (h : a.val ≤ c.val ∧ c.val ≤ b.val) :
    a.toNat ≤ c.toNat ∧ c.toNat ≤ b.toNat :=
  ⟨UInt32.le_iff_toNat_le.mp h.1, UInt32.le_iff_toNat_le.mp h.2⟩

/-- A letter or digit lies in one of three ranges. -/
lemma toNat_of_isAlphanum {c : Char} (h : c.isAlphanum = true) :
    (65 ≤ c.toNat ∧ c.toNat ≤ 90) ∨ (97 ≤ c.toNat ∧ c.toNat ≤ 122) ∨
      (48 ≤ c.toNat ∧ c.toNat ≤ 57) := by
  rcases (Bool.or_eq_true c.isAlpha c.isDigit).mp h with halpha | hdigit
  · rcases (Bool.or_eq_true c.isUpper c.isLower).mp halpha with hupper | hlower
    · exact .inl (toNat_between (a := 'A') (b := 'Z') (of_decide_eq_true hupper))
    · have hrange := (Bool.and_eq_true _ _).mp hlower
      exact .inr (.inl (toNat_between (a := 'a') (b := 'z')
        ⟨of_decide_eq_true hrange.1, of_decide_eq_true hrange.2⟩))
  · have hrange := (Bool.and_eq_true _ _).mp hdigit
    exact .inr (.inr (toNat_between (a := '0') (b := '9')
      ⟨of_decide_eq_true hrange.1, of_decide_eq_true hrange.2⟩))

/-- A character of a layer name lies between the space and the delete character. -/
lemma toNat_of_isNameChar {c : Char} (h : isNameChar c = true) : 32 < c.toNat ∧ c.toNat < 127 := by
  simp only [isNameChar, Bool.or_eq_true, decide_eq_true_eq] at h
  rcases h with ((h | rfl) | rfl) | rfl
  · have hrange := toNat_of_isAlphanum h
    omega
  · decide
  · decide
  · decide

/-- A character of a layer name is not blank. -/
lemma isBlank_of_isNameChar {c : Char} (h : isNameChar c = true) : Text.isBlank c = false := by
  obtain ⟨hlow, hhigh⟩ := toNat_of_isNameChar h
  simp only [Text.isBlank, Bool.or_eq_false_iff, Bool.and_eq_false_iff, decide_eq_false_iff_not,
    beq_eq_false_iff_ne]
  omega

/-- A letter may stand wherever a character of a layer name may. -/
lemma isNameChar_of_isAlpha {c : Char} (h : c.isAlpha = true) : isNameChar c = true := by
  have halphanum : c.isAlphanum = true := (Bool.or_eq_true c.isAlpha c.isDigit).mpr (.inl h)
  rw [isNameChar, halphanum]
  rfl

/-- A layer name is a word. -/
lemma word_of_isLayerName {name : String} (h : isLayerName name = true) :
    name ≠ "" ∧ name.length ≤ Command.maxNameLength ∧ ∀ c ∈ name.toList, isNameChar c = true := by
  rw [isLayerName] at h
  split at h
  · cases h
  · next c cs hname =>
      simp only [Bool.and_eq_true, List.all_eq_true, decide_eq_true_eq] at h
      obtain ⟨⟨hfirst, hrest⟩, hlength⟩ := h
      refine ⟨?_, hlength, ?_⟩
      · rintro rfl
        simp at hname
      · rw [hname]
        exact List.forall_mem_cons.mpr ⟨isNameChar_of_isAlpha hfirst, hrest⟩

/-- The command of a well-formed layer passes its check. -/
lemma LayerSettings.WellFormed.make_eq {l : LayerSettings} (h : l.WellFormed) :
    Command.make l.id l.name l.effectiveDescription = .ok l.command := by
  obtain ⟨hne, hlength, hchars⟩ := word_of_isLayerName h.name_ok
  have hblank : Text.hasBlank l.name = false :=
    Text.hasBlank_eq_false_iff.mpr fun c hc => isBlank_of_isNameChar (hchars c hc)
  have hvalid : l.command.Valid := ⟨hne, hlength, hblank, h.description_le⟩
  exact Command.make_eq_ok_iff.mpr hvalid

/-- Checks that all succeed give the list of what they give. -/
lemma mapM_eq_ok {ε α β : Type} {f : α → Except ε β} {g : α → β} {xs : List α}
    (h : ∀ x ∈ xs, f x = .ok (g x)) : xs.mapM f = .ok (xs.map g) := by
  induction xs with
  | nil => rfl
  | cons x xs ih =>
      obtain ⟨hx, hxs⟩ := List.forall_mem_cons.mp h
      rw [List.mapM_cons, hx, ih hxs]
      rfl

namespace Config.WellFormed

variable {c : Config} (h : c.WellFormed)

include h

/-- **The root menu** of a well-formed configuration lists its layers in order. -/
theorem rootMenu_eq : c.rootMenu = .ok ⟨c.layers.map LayerSettings.command⟩ := by
  have hcommands : c.layers.mapM (fun l => Command.make l.id l.name l.effectiveDescription)
      = .ok (c.layers.map LayerSettings.command) :=
    mapM_eq_ok fun l hl => (h.layers_ok l hl).make_eq
  rw [rootMenu, Menu.ofFields, List.mapM_map]
  exact congrArg (fun r => r.bind fun commands => .ok (Menu.mk commands)) hcommands

/-- Layers of one name are the same layer. -/
lemma eq_of_name {a b : LayerSettings} (ha : a ∈ c.layers) (hb : b ∈ c.layers)
    (hname : a.name = b.name) : a = b := by
  by_contra hne
  exact (h.apart.forall ha hb hne).2 hname

/-- Layers of one identifier are the same layer. -/
lemma eq_of_id {a b : LayerSettings} (ha : a ∈ c.layers) (hb : b ∈ c.layers)
    (hid : a.id = b.id) : a = b := by
  by_contra hne
  exact (h.apart.forall ha hb hne).1 hid

/-- A layer is found in the root menu under its name. -/
lemma find?_eq {l : LayerSettings} (hl : l ∈ c.layers) :
    (Menu.mk (c.layers.map LayerSettings.command)).find? l.name = some l.command := by
  refine Menu.find?_eq_of_unique (List.mem_map_of_mem hl) fun d hd hname => ?_
  obtain ⟨k, hk, rfl⟩ := List.mem_map.mp hd
  rw [h.eq_of_name hk hl hname]

/-- A layer is found in the root menu under its identifier. -/
lemma findById?_eq {l : LayerSettings} (hl : l ∈ c.layers) :
    (Menu.mk (c.layers.map LayerSettings.command)).findById? l.id = some l.command := by
  refine Menu.findById?_eq_of_unique (List.mem_map_of_mem hl) fun d hd hid => ?_
  obtain ⟨k, hk, rfl⟩ := List.mem_map.mp hd
  rw [h.eq_of_id hk hl hid]

end Config.WellFormed

/-- What the root menu finds under a name is the command of a layer of this name. -/
lemma LayerSettings.of_find? {layers : List LayerSettings} {name : String} {d : Command}
    (h : (Menu.mk (layers.map LayerSettings.command)).find? name = some d) :
    ∃ l ∈ layers, l.name = name ∧ d = l.command := by
  obtain ⟨l, hl, rfl⟩ := List.mem_map.mp (Menu.mem_of_find? h)
  exact ⟨l, hl, Menu.name_of_find? h, rfl⟩

end DaemonConsole
