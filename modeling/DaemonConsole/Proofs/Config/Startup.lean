/-
What a valid configuration starts.

A configuration is checked as a whole when it is read, and piece by piece when it is put to use: the
commands of the root menu are checked one by one, and so are those of every layer that is started.
What passes the first check passes the others, and the root menu and the daemon are made of the same
layers.

* `Config.startDaemon_eq`: the checks of a daemon that is started never fail;
* `Daemon.ascending_running`, `Daemon.mem_running_ofLayers`: the identifiers of what runs;
* `Config.Agrees`: a root menu and a daemon that list and run the layers of a configuration;
* `Config.starts_of_valid`: what a valid configuration starts agrees with it.
-/
import DaemonConsole.Proofs.Channel.Hosting
import DaemonConsole.Proofs.Text.Split

namespace DaemonConsole

/-! ### Starting the daemon -/

/-- Valid commands pass the check of a menu. -/
lemma Menu.ofFields_fields {m : Menu} (h : ∀ c ∈ m.commands, c.Valid) :
    Menu.ofFields (m.commands.map fun c => (c.id, c.name, c.description)) = .ok m := by
  have hcommands : m.commands.mapM (fun c => Command.make c.id c.name c.description)
      = .ok (m.commands.map id) :=
    mapM_eq_ok fun c hc => Command.make_eq_ok_iff.mpr (h c hc)
  rw [List.map_id] at hcommands
  rw [ofFields, List.mapM_map]
  exact congrArg (fun r => r.bind fun commands => .ok (Menu.mk commands)) hcommands

/-- The commands of every kind are valid. -/
lemma LayerKind.valid_of_mem_menu (kind : LayerKind) : ∀ c ∈ kind.menu.commands, c.Valid := by
  cases kind <;> decide +kernel

/-- A layer can always be started. -/
lemma Daemon.start_eq (d : Daemon) (l : LayerSettings) : d.start l = .ok (d.insert l.build) := by
  have hmenu : l.kind.checkedMenu = .ok l.kind.menu :=
    Menu.ofFields_fields l.kind.valid_of_mem_menu
  rw [start, hmenu]

/-- So the daemon is started, whatever its layers. -/
lemma Config.startDaemon_eq (c : Config) : c.startDaemon = .ok c.daemon := by
  have hfold (layers : List LayerSettings) (d : Daemon) : layers.foldlM Daemon.start d
      = .ok ((layers.map LayerSettings.build).foldl Daemon.insert d) := by
    induction layers generalizing d with
    | nil => rfl
    | cons l layers ih =>
        rw [List.foldlM_cons, d.start_eq]
        exact ih _
  exact hfold _ _

/-! ### What runs -/

namespace Daemon

/-- The identifiers of what runs ascend. -/
lemma ascending_running (d : Daemon) : d.running.Pairwise (· < ·) :=
  d.layers.ascending_keys.imp UInt32.lt_iff_toNat_lt.mpr

/-- An identifier is running if a layer is found under it. -/
lemma mem_running_iff {d : Daemon} {id : LayerId} :
    id ∈ d.running ↔ ∃ l, d.layers.get? id = some l :=
  Table.mem_keys_iff

/-- Of some layers their identifiers run, and no others. -/
lemma mem_running_ofLayers {layers : List Layer} {id : LayerId} :
    id ∈ (ofLayers layers).running ↔ ∃ l ∈ layers, l.id = id := by
  rw [mem_running_iff, get?_ofLayers]
  simp [← Option.isSome_iff_exists]

end Daemon

/-! ### Agreement -/

/-- A root menu and a daemon that list and run the layers of a configuration. -/
structure Config.Agrees (c : Config) (root : Menu) (daemon : Daemon) : Prop where
  /-- The root menu lists each layer, in order, with its description or that of its kind. -/
  commands_eq : root.commands = c.layers.map fun l =>
    ⟨l.id, l.name, l.description.getD l.kind.description⟩
  ids_nodup : (root.commands.map Command.id).Nodup
  names_nodup : root.names.Nodup
  exitWord_not_mem : exitWord ∉ root.names
  /-- A name can be typed: it is read as one word with nothing behind it. -/
  splitFirst_name : ∀ name ∈ root.names, Text.splitFirst name = some (name, "")
  /-- Under the name of a layer, and under its identifier, the layer itself is found. -/
  find?_eq : ∀ l ∈ c.layers,
    root.find? l.name = some ⟨l.id, l.name, l.description.getD l.kind.description⟩
  findById?_eq : ∀ l ∈ c.layers,
    root.findById? l.id = some ⟨l.id, l.name, l.description.getD l.kind.description⟩
  /-- The enabled layers run, and no others. -/
  mem_running_iff : ∀ id, id ∈ daemon.running ↔ ∃ l ∈ c.layers, l.enabled = true ∧ l.id = id
  running_ascending : daemon.running.Pairwise (· < ·)
  /-- A layer runs under its own identifier and name, and has the commands of its kind. -/
  hosted : ∀ l ∈ c.layers, l.enabled = true → ∃ running, daemon.layers.get? l.id = some running ∧
    running.id = l.id ∧ running.name = l.name ∧ daemon.getMenu l.id = .ok l.kind.menu

/-- The daemon of a configuration runs the enabled layers. -/
lemma Config.mem_running_daemon {c : Config} (id : LayerId) :
    id ∈ c.daemon.running ↔ ∃ l ∈ c.layers, l.enabled = true ∧ l.id = id := by
  rw [daemon, Daemon.mem_running_ofLayers]
  constructor
  · rintro ⟨running, hrunning, rfl⟩
    obtain ⟨l, hl, rfl⟩ := List.mem_map.mp hrunning
    obtain ⟨hl, hon⟩ := List.mem_filter.mp hl
    exact ⟨l, hl, hon, rfl⟩
  · rintro ⟨l, hl, hon, rfl⟩
    exact ⟨l.build, List.mem_map_of_mem (List.mem_filter.mpr ⟨hl, hon⟩), rfl⟩

namespace Config.WellFormed

variable {c : Config} (h : c.WellFormed)

include h

/-- The name of a layer is one word. -/
lemma splitFirst_name {l : LayerSettings} (hl : l ∈ c.layers) :
    Text.splitFirst l.name = some (l.name, "") := by
  have hvalid : l.command.Valid := Command.make_eq_ok_iff.mp (h.layers_ok l hl).make_eq
  obtain ⟨hne, -, hblank, -⟩ := hvalid
  exact Text.splitFirst_word hblank hne

/-- A well-formed configuration agrees with what is made of it. -/
lemma agrees : c.Agrees ⟨c.layers.map LayerSettings.command⟩ c.daemon where
  commands_eq := rfl
  ids_nodup := by
    rw [List.map_map]
    exact List.pairwise_map.mpr (h.apart.imp fun hapart => hapart.1)
  names_nodup := by
    rw [Menu.names, List.map_map]
    exact List.pairwise_map.mpr (h.apart.imp fun hapart => hapart.2)
  exitWord_not_mem := by
    rw [Menu.names, List.map_map]
    intro hexit
    obtain ⟨l, hl, hname⟩ := List.mem_map.mp hexit
    exact (h.layers_ok l hl).name_ne_exit hname
  splitFirst_name := by
    intro name hname
    rw [Menu.names, List.map_map] at hname
    obtain ⟨l, hl, rfl⟩ := List.mem_map.mp hname
    exact h.splitFirst_name hl
  find?_eq := fun l hl => h.find?_eq hl
  findById?_eq := fun l hl => h.findById?_eq hl
  mem_running_iff := mem_running_daemon
  running_ascending := c.daemon.ascending_running
  hosted := fun l hl hon =>
    ⟨l.build, h.get?_daemon hl hon, rfl, rfl, h.hosts_daemon.getMenu_enabled hl hon⟩

end Config.WellFormed

/-- **A valid configuration starts.** Its root menu passes the check of every command, its daemon is
started without a fault, and both agree with the configuration and so with each other. -/
theorem Config.starts_of_valid {c : Config} (hvalid : c.validate = .ok ()) :
    ∃ root daemon, c.rootMenu = .ok root ∧ c.startDaemon = .ok daemon ∧ c.Agrees root daemon :=
  have h := validate_eq_ok_iff.mp hvalid
  ⟨_, _, h.rootMenu_eq, c.startDaemon_eq, h.agrees⟩

/-- Three layers whose identifiers descend, the second of them disabled. -/
def Config.descending : Config where
  layers := [{ id := 9, name := "edge.core_1", kind := .tcp, description := some "uplink" },
    { id := 4, name := "ip", kind := .net, enabled := false },
    { id := 2, name := "Lo-0", kind := .link }]

/-- All three are listed in their order, and the first and the last run. -/
theorem Config.descending_starts :
    descending.validate = .ok () ∧ ∃ root daemon, descending.rootMenu = .ok root ∧
      descending.startDaemon = .ok daemon ∧ root.names = ["edge.core_1", "ip", "Lo-0"] ∧
      ∀ id, id ∈ daemon.running ↔ id = 9 ∨ id = 2 := by
  have hvalid : descending.validate = .ok () := rfl
  obtain ⟨root, daemon, hroot, hdaemon, h⟩ := starts_of_valid hvalid
  refine ⟨hvalid, root, daemon, hroot, hdaemon, ?_, fun id => ?_⟩
  · rw [Menu.names, h.commands_eq]
    rfl
  · rw [h.mem_running_iff]
    constructor
    · rintro ⟨l, hl, hon, rfl⟩
      simp only [descending, List.mem_cons, List.not_mem_nil, or_false] at hl
      rcases hl with rfl | rfl | rfl
      · exact .inl rfl
      · cases hon
      · exact .inr rfl
    · rintro (rfl | rfl)
      · exact ⟨_, .head _, rfl, rfl⟩
      · exact ⟨_, .tail _ (.tail _ (.head _)), rfl, rfl⟩

end DaemonConsole
