/-
What the prompt of a session tells.

The prompt shows the name under which the root menu lists the layer that the session is in, found by
the identifier of the layer. The session is in there because a typed name was found in the same menu.
In a valid configuration the layers differ in both, so the two searches undo each other.

* `Session.Visit`: the last entry of a run into the layer where it ends;
* `Session.exists_visit`: a run that starts at the root and ends in a layer has one, over any channel;
* `Session.Hosted.prompt_eq_iff`: two sessions over one configuration show the same prompt exactly if
  they are at the same place;
* `Session.prompts_identify`: so do any two runs, and the name in the prompt is the word that the
  operator typed.
-/
import DaemonConsole.Proofs.Session.Hosted

namespace DaemonConsole

namespace Session

/-! ### Visits -/

section Visits

variable {σ : Type} [ControlChannel σ]

/-- A run over some lines, a line and later ones is in a layer from that line on. It was at the root
before, and the line starts with a word under which the root menu lists the layer. -/
structure Visit (s : Session σ) (before : List String) (line : String) (later : List String)
    (word : String) (layer : LayerId) : Prop where
  from_root : (s.after before).location = .root
  typed : ∃ rest, Text.splitFirst line = some (word, rest)
  listed : ∃ command, (s.after before).rootMenu.find? word = some command ∧ command.id = layer
  stays : ∀ n, (s.after (before ++ line :: later.take n)).location = .layer layer

/-- A line that leaves a session in a layer was typed in there, or it names the layer at the root. -/
lemma Step.location_cases {s next : Session σ} {line : String} {outcome : Outcome}
    {layer : LayerId} (hstep : Step s line outcome next) (hnext : next.location = .layer layer) :
    s.location = .layer layer ∨
      s.location = .root ∧ ∃ word, (∃ rest, Text.splitFirst line = some (word, rest)) ∧
        ∃ command, s.rootMenu.find? word = some command ∧ command.id = layer := by
  cases hstep with
  | blank => exact .inl hnext
  | leave => exact .inl hnext
  | ascend => cases hnext
  | unresolved => exact .inl hnext
  | enter hsplit _ hplace hfind _ =>
      refine .inr ⟨by rw [location, hplace], _, ⟨_, hsplit⟩, _, hfind, ?_⟩
      exact Location.layer.inj hnext
  | refuse => cases hnext
  | run => exact .inl hnext

/-- A visit goes on with every line that does not lead out of the layer. -/
lemma Visit.concat {s : Session σ} {before later : List String} {line word : String}
    {layer : LayerId} (h : Visit s before line later word layer) {y : String}
    (hy : (s.after (before ++ line :: (later ++ [y]))).location = .layer layer) :
    Visit s before line (later ++ [y]) word layer := by
  refine ⟨h.from_root, h.typed, h.listed, fun n => ?_⟩
  by_cases hn : n ≤ later.length
  · rw [List.take_append_of_le_length hn]
    exact h.stays n
  · rwa [List.take_of_length_le (by simp; omega)]

/-- A run from the root that ends in a layer ends with a visit of it. -/
lemma exists_visit {s : Session σ} (hroot : s.location = .root) (lines : List String)
    {layer : LayerId} (hlast : (s.after lines).location = .layer layer) :
    ∃ before line later word, lines = before ++ line :: later ∧
      Visit s before line later word layer := by
  induction lines using List.reverseRecOn with
  | nil =>
      rw [after_nil, hroot] at hlast
      cases hlast
  | append_singleton lines y ih =>
      have hstep := step_submit (s.after lines) y
      have hnext : s.after (lines ++ [y]) = ((s.after lines).submit y).2 := by
        rw [after_append, after_cons, after_nil]
      rcases hstep.location_cases (hnext ▸ hlast) with hsame | ⟨hbefore, word, htyped, hlisted⟩
      · -- the last line was typed inside the layer, so the visit before it goes on
        obtain ⟨before, line, later, word, rfl, hvisit⟩ := ih hsame
        rw [List.append_assoc, List.cons_append] at hlast
        exact ⟨before, line, later ++ [y], word, by simp, hvisit.concat hlast⟩
      · refine ⟨lines, y, [], word, rfl, hbefore, htyped, hlisted, fun n => ?_⟩
        rwa [List.take_nil]

end Visits

/-! ### Prompts -/

variable {c : Config} {product : String} {s t : Session Daemon}

/-- The prompt at the root. -/
lemma Hosted.prompt_root (h : Hosted c product s) (hloc : s.location = .root) :
    s.prompt = product ++ "# " := by
  rw [h.prompted.at_root hloc, h.product_eq]

/-- The prompt inside a layer of the configuration. -/
lemma Hosted.prompt_layer (hc : c.WellFormed) (h : Hosted c product s) {l : LayerSettings}
    (hl : l ∈ c.layers) (hloc : s.location = .layer l.id) :
    s.prompt = product ++ "[" ++ l.name ++ "]# " := by
  rw [h.prompted.in_layer hloc, layerPrompt, h.product_eq, h.layerName_eq hc hl]

/-- A session inside a layer is inside one of the configuration. -/
lemma Hosted.exists_layer (h : Hosted c product s) {layer : LayerId}
    (hloc : s.location = .layer layer) : ∃ l ∈ c.layers, l.id = layer := by
  obtain ⟨l, hl, -, hid, -⟩ := h.inside layer _ (place_of_location hloc)
  exact ⟨l, hl, hid⟩

/-- The prompt inside a layer has a bracket where the prompt at the root has a number sign. -/
lemma root_ne_layer (product name : String) : product ++ "# " ≠ product ++ "[" ++ name ++ "]# " := by
  intro h
  have hchars := congrArg String.toList h
  simp at hchars

/-- The name can be read off the prompt inside a layer. -/
lemma name_inj {product x y : String}
    (h : product ++ "[" ++ x ++ "]# " = product ++ "[" ++ y ++ "]# ") : x = y := by
  have hchars := congrArg String.toList h
  simp only [String.toList_append, List.append_cancel_right_eq, List.append_cancel_left_eq]
    at hchars
  exact String.toList_inj.mp hchars

/-- Two sessions over the daemon of one configuration show the same prompt exactly if they are at the
same location. -/
lemma Hosted.prompt_eq_iff (hc : c.WellFormed) (hs : Hosted c product s) (ht : Hosted c product t) :
    s.prompt = t.prompt ↔ s.location = t.location := by
  cases hsloc : s.location with
  | root =>
      cases htloc : t.location with
      | root => simp [hs.prompt_root hsloc, ht.prompt_root htloc]
      | layer _ =>
          obtain ⟨l, hl, rfl⟩ := ht.exists_layer htloc
          simp [hs.prompt_root hsloc, ht.prompt_layer hc hl htloc, root_ne_layer]
  | layer _ =>
      obtain ⟨k, hk, rfl⟩ := hs.exists_layer hsloc
      cases htloc : t.location with
      | root =>
          simp [hs.prompt_layer hc hk hsloc, ht.prompt_root htloc, (root_ne_layer _ _).symm]
      | layer _ =>
          obtain ⟨l, hl, rfl⟩ := ht.exists_layer htloc
          rw [hs.prompt_layer hc hk hsloc, ht.prompt_layer hc hl htloc, Location.layer.injEq]
          constructor
          · intro hprompt
            rw [hc.eq_of_name hk hl (name_inj hprompt)]
          · intro hid
            rw [hc.eq_of_id hk hl hid]

/-- What the prompts of the runs from one session tell. -/
structure Identified (s : Session Daemon) : Prop where
  /-- Two runs end with the same prompt exactly if they end at the same location. -/
  prompt_eq_iff : ∀ xs ys, (s.after xs).prompt = (s.after ys).prompt ↔
    (s.after xs).location = (s.after ys).location
  /-- A run that ends in a layer has a last line that led into it from the root, and the prompt shows
  the first word of this line. -/
  shows_typed : ∀ lines layer, (s.after lines).location = .layer layer →
    ∃ before line later word, lines = before ++ line :: later ∧
      Visit s before line later word layer ∧
        (s.after lines).prompt = s.product ++ "[" ++ word ++ "]# "

/-- **The prompt identifies the location**: a valid configuration has a root menu, and in the sessions
over it and the daemon of the configuration prompts and locations determine each other. The name in
the prompt of a layer is the word that was typed at the root to enter it. -/
theorem prompts_identify {c : Config} (hvalid : c.validate = .ok ()) (product : String) :
    ∃ root, c.rootMenu = .ok root ∧ Identified (start root c.daemon product) := by
  have hc := Config.validate_eq_ok_iff.mp hvalid
  have hhosted := hosted_after hc product
  refine ⟨_, hc.rootMenu_eq, fun xs ys => (hhosted xs).prompt_eq_iff hc (hhosted ys), ?_⟩
  intro lines layer hloc
  obtain ⟨before, line, later, word, hlines, hvisit⟩ := exists_visit rfl lines hloc
  refine ⟨before, line, later, word, hlines, hvisit, ?_⟩
  -- the word was looked up in the root menu, which lists a layer of this name and identifier
  obtain ⟨command, hfind, rfl⟩ := hvisit.listed
  obtain ⟨l, hl, rfl, rfl⟩ := (hhosted before).listed hfind
  exact (hhosted lines).prompt_layer hc hl hloc

/-- Two runs over the layers of `edgeDisabled` of which one is in the first and the other was refused
by the second. -/
theorem edgeDisabled_prompts :
    edgeDisabled.validate = .ok () ∧ ∃ root, edgeDisabled.rootMenu = .ok root ∧
      ((start root edgeDisabled.daemon "stackd").after ["link", "list"]).prompt
        ≠ ((start root edgeDisabled.daemon "stackd").after ["edge"]).prompt := by
  have hvalid : edgeDisabled.validate = .ok () := rfl
  obtain ⟨root, hroot, hprompts⟩ := prompts_identify hvalid "stackd"
  refine ⟨hvalid, root, hroot, fun hsame => ?_⟩
  have hlocation := (hprompts.prompt_eq_iff _ _).mp hsame
  cases hroot
  revert hlocation
  decide

end Session

end DaemonConsole
