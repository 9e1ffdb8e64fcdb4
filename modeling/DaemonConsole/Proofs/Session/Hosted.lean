/-
Sessions over the daemon of a valid configuration.

Root menu, daemon and layers are made from one configuration and agree with each other: what the
root menu lists is configured, what is entered runs, and what the menu of an entered layer lists is
known to the layer. So the only faults that an operator meets are his own and those of the layers.

* `Session.Hosted`: the invariant, that a session inside a layer is inside an enabled one with the
  menu of its kind, over a daemon that hosts what the configuration says, and that its prompt goes with
  its place;
* `Session.FaultFree`: what a line may lead to;
* `Session.faultFree_after`: every line of every session over the daemon of a valid configuration
  leads to no more.
-/
import DaemonConsole.Proofs.Channel.Hosting
import DaemonConsole.Proofs.Session.Step

namespace DaemonConsole

namespace Session

variable {c : Config} {product : String} {s next : Session Daemon} {line : String}
  {outcome : Outcome}

/-! ### The invariant -/

/-- The root menu lists the layers of the configuration, the daemon hosts the enabled ones, a place
inside a layer is inside an enabled one with the menu of its kind, and the prompt goes with the
place. -/
structure Hosted (c : Config) (product : String) (s : Session Daemon) : Prop where
  rootMenu_eq : s.rootMenu = ⟨c.layers.map LayerSettings.command⟩
  product_eq : s.product = product
  hosts : c.Hosts s.channel
  inside : ∀ layer menu, s.place = .inside layer menu →
    ∃ l ∈ c.layers, l.enabled = true ∧ l.id = layer ∧ l.kind.menu = menu
  prompted : s.Prompted

/-- A session starts hosted. -/
lemma hosted_start (hc : c.WellFormed) (product : String) :
    Hosted c product (start ⟨c.layers.map LayerSettings.command⟩ c.daemon product) where
  rootMenu_eq := rfl
  product_eq := rfl
  hosts := hc.hosts_daemon
  inside := by rintro layer menu ⟨⟩
  prompted := prompted_start _ _ product

/-- A word that the root menu has is the name of a layer. -/
lemma Hosted.listed (h : Hosted c product s) {word : String} {command : Command}
    (hfind : s.rootMenu.find? word = some command) :
    ∃ l ∈ c.layers, l.name = word ∧ command = l.command := by
  rw [h.rootMenu_eq] at hfind
  exact LayerSettings.of_find? hfind

/-- Every rule keeps a session hosted. -/
lemma Hosted.step (h : Hosted c product s) (hstep : Step s line outcome next) :
    Hosted c product next := by
  have hprompted := h.prompted.step hstep
  cases hstep with
  | blank => exact h
  | leave => exact h
  | unresolved => exact h
  | ascend =>
      refine ⟨h.rootMenu_eq, h.product_eq, h.hosts, ?_, hprompted⟩
      rintro layer menu ⟨⟩
  | @enter word rest command menu channel _ _ hplace hfind hmenu =>
      obtain ⟨l, hl, -, rfl⟩ := h.listed hfind
      obtain ⟨hanswer, rfl⟩ : s.channel.getMenu l.id = .ok menu ∧ s.channel = channel :=
        Prod.mk.inj hmenu
      refine ⟨h.rootMenu_eq, h.product_eq, h.hosts, ?_, hprompted⟩
      rintro layer menu ⟨⟩
      cases hon : l.enabled with
      | true =>
          rw [h.hosts.getMenu_enabled hl hon] at hanswer
          exact ⟨l, hl, hon, rfl, Except.ok.inj hanswer⟩
      | false =>
          rw [h.hosts.getMenu_disabled hl hon] at hanswer
          cases hanswer
  | refuse _ _ _ _ hmenu =>
      obtain ⟨-, rfl⟩ := Prod.mk.inj hmenu
      refine ⟨h.rootMenu_eq, h.product_eq, h.hosts, ?_, hprompted⟩
      rintro layer menu ⟨⟩
  | @run word rest layer menu command answer channel _ _ hplace _ hanswer =>
      obtain rfl : channel = (s.channel.execute layer command.id rest).2 := by
        rw [show s.channel.execute layer command.id rest = (answer, channel) from hanswer]
      exact ⟨h.rootMenu_eq, h.product_eq, h.hosts.execute layer command.id rest, h.inside, hprompted⟩

/-- Every run is hosted. -/
lemma hosted_after (hc : c.WellFormed) (product : String) (lines : List String) :
    Hosted c product
      ((start ⟨c.layers.map LayerSettings.command⟩ c.daemon product).after lines) :=
  after_induction (hosted_start hc product) (fun hstep h => h.step hstep) lines

/-- A command that is sent is known to a running layer, and its answer is a text that is not empty
or a refusal by the layer. -/
lemma Hosted.answer (h : Hosted c product s) {layer : LayerId} {menu : Menu} {word : String}
    {command : Command} (hplace : s.place = .inside layer menu)
    (hfind : menu.find? word = some command) (args : String) :
    (∃ running, s.channel.layers.get? layer = some running ∧
        ∀ id, (running.execute command.id args).1 ≠ .error (.unknownCommand id)) ∧
      ((∃ text, text ≠ "" ∧ (s.channel.execute layer command.id args).1 = .ok text) ∨
        ∃ reason, (s.channel.execute layer command.id args).1 = .error (.command reason)) := by
  obtain ⟨l, hl, hon, rfl, rfl⟩ := h.inside layer menu hplace
  exact h.hosts.answer hl hon ⟨command, Menu.mem_of_find? hfind, rfl⟩ args

/-- A command that is sent gives one report: its output, or what the layer holds against it. -/
lemma Hosted.reports_run (h : Hosted c product s) {layer : LayerId} {menu : Menu} {word rest : String}
    {command : Command} {answer : Except ExecError String} {channel : Daemon}
    (hplace : s.place = .inside layer menu) (hfind : menu.find? word = some command)
    (hanswer : ControlChannel.execute s.channel layer command.id rest = (answer, channel)) :
    (∃ text, text ≠ "" ∧ (outcomeOf command answer).reports = [.output text]) ∨
      ∃ reason, (outcomeOf command answer).reports
        = [.commandFailed command.name reason command.description] := by
  have hfst : (s.channel.execute layer command.id rest).1 = answer := congrArg Prod.fst hanswer
  rcases (h.answer hplace hfind rest).2 with ⟨text, htext, hok⟩ | ⟨reason, hfault⟩
  · refine .inl ⟨text, htext, ?_⟩
    rw [← hfst, hok, outcomeOf, if_neg htext]
    rfl
  · refine .inr ⟨reason, ?_⟩
    rw [← hfst, hfault]
    rfl

/-! ### What a line may lead to -/

/-- What a line may lead to in a session over the daemon of a configuration. -/
structure FaultFree (c : Config) (product : String) (s : Session Daemon) (line : String) : Prop where
  /-- Every command reaches the daemon. -/
  no_sendFailed : ∀ reason, .sendFailed reason ∉ (s.submit line).1.reports
  /-- A word of an entered layer names a command that the running layer knows. -/
  command_known : ∀ layer word rest command, s.location = .layer layer →
    Text.splitFirst line = some (word, rest) → word ≠ exitWord →
      s.activeMenu.find? word = some command →
        ∃ running, s.channel.layers.get? layer = some running ∧
          ∀ id, (running.execute command.id rest).1 ≠ .error (.unknownCommand id)
  /-- Such a word gives one report, which is an output that shows or the refusal of the command. -/
  one_report : ∀ layer word rest command, s.location = .layer layer →
    Text.splitFirst line = some (word, rest) → word ≠ exitWord →
      s.activeMenu.find? word = some command →
        (∃ text, text ≠ "" ∧ (s.submit line).1.reports = [.output text]) ∨
          ∃ reason, (s.submit line).1.reports
            = [.commandFailed command.name reason command.description]
  /-- A menu fails to load for the name of a disabled layer at the root, and for nothing else. -/
  loadFailed_iff : ∀ name reason, .loadFailed name reason ∈ (s.submit line).1.reports ↔
    s.location = .root ∧ (∃ rest, Text.splitFirst line = some (name, rest)) ∧
      ∃ l ∈ c.layers, l.enabled = false ∧ l.name = name ∧
        reason = "layer " ++ toString l.id.toNat ++ " is not running"
  /-- The name of an enabled layer at the root leads into it. -/
  enters : ∀ l ∈ c.layers, ∀ rest, l.enabled = true → s.location = .root →
    Text.splitFirst line = some (l.name, rest) →
      (s.submit line).2.location = .layer l.id ∧
        (s.submit line).2.activeMenu = l.kind.menu ∧
          (s.submit line).2.prompt = product ++ "[" ++ l.name ++ "]# "

/-- No report of a hosted session says that a command was not delivered. -/
lemma Hosted.no_sendFailed (h : Hosted c product s) (hstep : Step s line outcome next)
    (reason : String) : .sendFailed reason ∉ outcome.reports := by
  cases hstep with
  | blank => simp [Outcome.quiet]
  | leave => simp [Outcome.exit]
  | ascend => simp [Outcome.quiet]
  | unresolved => simp [Outcome.ofReport]
  | enter => simp [Outcome.quiet]
  | refuse => simp [Outcome.ofReport]
  | run _ _ hplace hfind hanswer =>
      rcases h.reports_run hplace hfind hanswer with ⟨text, -, hreports⟩ | ⟨why, hreports⟩
      · simp [hreports]
      · simp [hreports]

/-- The root menu lists a layer under its name. -/
lemma Hosted.layerName_eq (hc : c.WellFormed) (h : Hosted c product s) {l : LayerSettings}
    (hl : l ∈ c.layers) : s.layerName l.id = l.name := by
  rw [layerName, h.rootMenu_eq, hc.findById?_eq hl]
  rfl

/-- A disabled layer at the root is refused, with its name and number. -/
lemma Hosted.refused (hc : c.WellFormed) (h : Hosted c product s) (hroot : s.place = .root)
    {l : LayerSettings} {rest : String} (hl : l ∈ c.layers) (hoff : l.enabled = false)
    (hsplit : Text.splitFirst line = some (l.name, rest)) :
    Step s line (.ofReport (.loadFailed l.name (notRunningText l.id))) s.enterRoot := by
  have hfind : s.rootMenu.find? l.name = some l.command := by
    rw [h.rootMenu_eq]
    exact hc.find?_eq hl
  have hmenu : ControlChannel.getMenu s.channel l.command.id
      = (.error (.notRunning l.id), s.channel) :=
    congrArg (·, s.channel) (h.hosts.getMenu_disabled hl hoff)
  have hstep := Step.refuse hsplit (hc.layers_ok l hl).name_ne_exit hroot hfind hmenu
  rw [show l.command.id = l.id from rfl, h.layerName_eq hc hl] at hstep
  exact hstep

/-- An enabled layer at the root is entered. -/
lemma Hosted.entered (hc : c.WellFormed) (h : Hosted c product s) (hroot : s.place = .root)
    {l : LayerSettings} {rest : String} (hl : l ∈ c.layers) (hon : l.enabled = true)
    (hsplit : Text.splitFirst line = some (l.name, rest)) :
    Step s line .quiet
      { s with place := .inside l.id l.kind.menu, prompt := s.layerPrompt l.id } := by
  have hfind : s.rootMenu.find? l.name = some l.command := by
    rw [h.rootMenu_eq]
    exact hc.find?_eq hl
  have hmenu : ControlChannel.getMenu s.channel l.command.id = (.ok l.kind.menu, s.channel) :=
    congrArg (·, s.channel) (h.hosts.getMenu_enabled hl hon)
  exact Step.enter hsplit (hc.layers_ok l hl).name_ne_exit hroot hfind hmenu

/-- A load fails for the name of a disabled layer only. -/
lemma Hosted.of_loadFailed (hc : c.WellFormed) (h : Hosted c product s)
    (hstep : Step s line outcome next) {name reason : String}
    (hreport : .loadFailed name reason ∈ outcome.reports) :
    s.place = .root ∧ (∃ rest, Text.splitFirst line = some (name, rest)) ∧
      ∃ l ∈ c.layers, l.enabled = false ∧ l.name = name ∧ reason = notRunningText l.id := by
  cases hstep with
  | blank => simp [Outcome.quiet] at hreport
  | leave => simp [Outcome.exit] at hreport
  | ascend => simp [Outcome.quiet] at hreport
  | unresolved => simp [Outcome.ofReport] at hreport
  | enter => simp [Outcome.quiet] at hreport
  | run _ _ hplace hfind hanswer =>
      rcases h.reports_run hplace hfind hanswer with ⟨text, -, hreports⟩ | ⟨why, hreports⟩
      · simp [hreports] at hreport
      · simp [hreports] at hreport
  | @refuse word rest command fault channel hsplit hword hplace hfind hmenu =>
      obtain ⟨l, hl, rfl, rfl⟩ := h.listed hfind
      cases hon : l.enabled with
      | true =>
          have hget := h.hosts.getMenu_enabled hl hon
          rw [show s.channel.getMenu l.id = .error fault from congrArg Prod.fst hmenu] at hget
          cases hget
      | false =>
          -- the rule is the one of `refused`, so the report is known
          have hsame := (h.refused hc hplace hl hon hsplit).submit_eq.symm.trans
            (Step.refuse hsplit hword hplace hfind hmenu).submit_eq
          have houtcome := (Prod.mk.inj hsame).1
          rw [← houtcome] at hreport
          simp only [Outcome.ofReport, List.mem_singleton, Report.loadFailed.injEq] at hreport
          obtain ⟨rfl, rfl⟩ := hreport
          exact ⟨hplace, ⟨rest, hsplit⟩, l, hl, hon, rfl, rfl⟩

/-- In a hosted session every line is free of faults. -/
lemma Hosted.faultFree (hc : c.WellFormed) (h : Hosted c product s) (line : String) :
    FaultFree c product s line where
  no_sendFailed := h.no_sendFailed (step_submit s line)
  command_known := by
    intro layer word rest command hloc _ _ hfind
    exact (h.answer (place_of_location hloc) hfind rest).1
  one_report := by
    intro layer word rest command hloc hsplit hword hfind
    have hplace := place_of_location hloc
    have hstep : Step s line _ _ := .run hsplit hword hplace hfind rfl
    rw [hstep.submit_eq]
    exact h.reports_run hplace hfind rfl
  loadFailed_iff := by
    intro name reason
    constructor
    · intro hreport
      obtain ⟨hroot, hsplit, hlayer⟩ := h.of_loadFailed hc (step_submit s line) hreport
      exact ⟨by rw [location, hroot], hsplit, hlayer⟩
    · rintro ⟨hloc, ⟨rest, hsplit⟩, l, hl, hoff, rfl, rfl⟩
      rw [(h.refused hc (place_of_location_root hloc) hl hoff hsplit).submit_eq]
      exact List.mem_singleton_self _
  enters := by
    intro l hl rest hon hloc hsplit
    rw [(h.entered hc (place_of_location_root hloc) hl hon hsplit).submit_eq]
    refine ⟨rfl, rfl, ?_⟩
    rw [layerPrompt, h.product_eq, h.layerName_eq hc hl]

/-- **No internal faults**: a valid configuration has a root menu, and in every session over it and
the daemon of the configuration every line is free of faults. -/
theorem faultFree_after {c : Config} (hvalid : c.validate = .ok ()) (product : String) :
    ∃ root, c.rootMenu = .ok root ∧ ∀ lines line,
      FaultFree c product ((start root c.daemon product).after lines) line := by
  have hc := Config.validate_eq_ok_iff.mp hvalid
  exact ⟨_, hc.rootMenu_eq, fun lines line => (hosted_after hc product lines).faultFree hc line⟩

/-- A link layer that runs beside a transport layer that does not. -/
def edgeDisabled : Config where
  layers := [{ id := 1, name := "link", kind := .link },
    { id := 7, name := "edge", kind := .tcp, enabled := false }]

/-- Whenever a session over these two layers is at the root, the second is refused by its name and
number. -/
theorem edgeDisabled_refuses :
    edgeDisabled.validate = .ok () ∧ ∃ root, edgeDisabled.rootMenu = .ok root ∧ ∀ lines,
      ((start root edgeDisabled.daemon "stackd").after lines).location = .root →
        .loadFailed "edge" "layer 7 is not running"
          ∈ (((start root edgeDisabled.daemon "stackd").after lines).submit "edge").1.reports := by
  have hvalid : edgeDisabled.validate = .ok () := rfl
  obtain ⟨root, hroot, hfree⟩ := faultFree_after hvalid "stackd"
  refine ⟨hvalid, root, hroot, fun lines hloc => ?_⟩
  rw [(hfree lines "edge").loadFailed_iff]
  exact ⟨hloc, ⟨"", by decide⟩, _, List.mem_cons_of_mem _ List.mem_cons_self, rfl, rfl, by decide⟩

end Session

end DaemonConsole
