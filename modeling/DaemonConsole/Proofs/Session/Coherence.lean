/-
Coherence of place, active menu, prompt and channel history.

At the root the active menu is the root menu. Inside a layer the root menu lists the layer, the
prompt shows the name it is listed under, and the active menu is the answer to the most recent
request for a menu, which was for this layer.

* `Session.Grounded`: the invariant that the rules keep; its content is that a place inside a layer
  was reached by a listed command and the last load of the record;
* `Session.Coherent`: what an operator sees of it;
* `Session.coherent_after`: every run from the root is coherent, recorded or not.
-/
import DaemonConsole.Proofs.Menu.Lookup
import DaemonConsole.Proofs.Session.Record

namespace DaemonConsole

namespace Session

variable {σ : Type} {root : Menu} {product : String}

/-! ### The invariant -/

/-- The root menu and the product never change, and a place inside a layer is grounded in the root
menu, which lists the layer, and in the record, whose last load gave the menu. -/
structure Grounded (root : Menu) (product : String) (s : Session (Recorder σ)) : Prop where
  rootMenu_eq : s.rootMenu = root
  product_eq : s.product = product
  listed : ∀ layer menu, s.place = .inside layer menu → ∃ c, root.findById? layer = some c
  lastLoad_eq : ∀ layer menu, s.place = .inside layer menu →
    lastLoad? s.record = some (layer, .ok menu)

/-- A fresh session is grounded. -/
lemma grounded_start (root : Menu) (product : String) (channel : σ) :
    Grounded root product (start root (Recorder.start channel) product) where
  rootMenu_eq := rfl
  product_eq := rfl
  listed := by rintro layer menu ⟨⟩
  lastLoad_eq := by rintro layer menu ⟨⟩

section Rules

variable [ControlChannel σ]

/-- Every rule keeps a session grounded. -/
lemma Grounded.step {s next : Session (Recorder σ)} {line : String} {outcome : Outcome}
    (h : Grounded root product s) (hstep : Step s line outcome next) :
    Grounded root product next := by
  cases hstep with
  | blank => exact h
  | leave => exact h
  | unresolved => exact h
  | ascend | refuse =>
      refine ⟨h.rootMenu_eq, h.product_eq, ?_, ?_⟩
      · rintro layer menu ⟨⟩
      · rintro layer menu ⟨⟩
  | enter _ _ _ hfind hmenu =>
      -- the only rule that leads into a layer; its request is now the last of the record
      refine ⟨h.rootMenu_eq, h.product_eq, ?_, ?_⟩
      · rintro layer menu ⟨⟩
        rw [h.rootMenu_eq] at hfind
        exact Menu.exists_findById? (Menu.mem_of_find? hfind)
      · rintro layer menu ⟨⟩
        rw [record, (Recorder.getMenu_eq hmenu).2, lastLoad?_getMenu]
  | run _ _ _ _ hanswer =>
      refine ⟨h.rootMenu_eq, h.product_eq, h.listed, fun layer menu hp => ?_⟩
      rw [record, (Recorder.execute_eq hanswer).2, lastLoad?_execute]
      exact h.lastLoad_eq layer menu hp

/-- Every run from the root is grounded. -/
lemma grounded_after (root : Menu) (product : String) (channel : σ) (lines : List String) :
    Grounded root product ((start root (Recorder.start channel) product).after lines) :=
  after_induction (grounded_start root product channel) (fun hstep h => h.step hstep) lines

end Rules

/-! ### What the operator sees -/

/-- Location, active menu and prompt agree with each other and with the record. -/
structure Coherent (root : Menu) (product : String) (s : Session (Recorder σ)) : Prop where
  /-- The root menu is the one that the session started with. -/
  rootMenu_eq : s.rootMenu = root
  /-- At the root words are looked up in the root menu, and the prompt shows the product alone. -/
  at_root : s.location = .root → s.activeMenu = root ∧ s.prompt = product ++ "# "
  /-- Inside a layer the prompt shows the name that the root menu lists the layer under, and words
  are looked up in the menu that the last load gave, which was a load of this layer. -/
  in_layer : ∀ layer, s.location = .layer layer →
    (∃ c, root.findById? layer = some c ∧ s.prompt = product ++ "[" ++ c.name ++ "]# ") ∧
      lastLoad? s.record = some (layer, .ok s.activeMenu)

/-- A grounded session is coherent if its prompt goes with its place. -/
lemma Grounded.coherent {s : Session (Recorder σ)} (h : Grounded root product s) (hs : s.Prompted) :
    Coherent root product s := by
  refine ⟨h.rootMenu_eq, fun hloc => ⟨?_, ?_⟩, fun layer hloc => ?_⟩
  · rw [activeMenu, place_of_location_root hloc, h.rootMenu_eq]
  · rw [hs.at_root hloc, h.product_eq]
  · have hplace := place_of_location hloc
    obtain ⟨c, hc⟩ := h.listed _ _ hplace
    refine ⟨⟨c, hc, ?_⟩, h.lastLoad_eq _ _ hplace⟩
    rw [hs.in_layer hloc, layerPrompt, layerName, h.product_eq, h.rootMenu_eq, hc]

/-- **Coherence of every run**: after any lines typed into a fresh session over any channel, the
location, the active menu and the prompt agree with the root menu and with the last load of the
record; and the session over the bare channel is the same one without its record. -/
theorem coherent_after [ControlChannel σ] (root : Menu) (product : String) (channel : σ)
    (lines : List String) :
    Coherent root product ((start root (Recorder.start channel) product).after lines) ∧
      (start root channel product).after lines
        = ((start root (Recorder.start channel) product).after lines).forget :=
  ⟨(grounded_after root product channel lines).coherent (prompted_after root _ product lines),
    after_forget (start root (Recorder.start channel) product) lines⟩

end Session

end DaemonConsole
