/-
The daemon of a configuration, while it runs.

The daemon starts with the enabled layers and with no other. Commands change the state of a layer,
never its kind, and neither start nor stop a layer; so what the configuration says is hosted stays
so.

* `Daemon.get?_ofLayers`: of the layers of one identifier the last is hosted;
* `Config.Hosts`: the daemon hosts the enabled layers, each of its kind, and no disabled one;
* `Config.WellFormed.hosts_daemon`, `Config.Hosts.execute`: it does so from the start and after
  every command;
* `Config.Hosts.getMenu_enabled`, `Config.Hosts.answer`: what it answers.
-/
import DaemonConsole.Proofs.Config.WellFormed
import DaemonConsole.Proofs.Layer.Effects
import DaemonConsole.Proofs.Layer.Replies
import Mathlib.Data.List.Induction

namespace DaemonConsole

namespace Daemon

/-- One more layer at the end is hosted over the others. -/
lemma ofLayers_concat (layers : List Layer) (l : Layer) :
    ofLayers (layers ++ [l]) = (ofLayers layers).insert l := by
  rw [ofLayers, List.foldl_append]
  rfl

/-- Of the layers of one identifier the last is hosted. -/
lemma get?_ofLayers (layers : List Layer) (id : LayerId) :
    (ofLayers layers).layers.get? id = layers.reverse.find? (·.id == id) := by
  induction layers using List.reverseRecOn with
  | nil => rfl
  | append_singleton layers l ih =>
      rw [ofLayers_concat, List.reverse_append, List.reverse_singleton, List.singleton_append,
        List.find?_cons, insert]
      by_cases hid : l.id = id
      · subst hid
        rw [Table.get?_insert_self, beq_self_eq_true]
      · rw [Table.get?_insert_of_ne _ _ hid, ih, beq_eq_false_iff_ne.mpr hid]

end Daemon

/-- A command of a layer is one of its service. -/
lemma Layer.execute_ok {l next : Layer} {command : CommandId} {args reply : String}
    (h : l.execute command args = (.ok reply, next)) :
    l.service.execute command args = (.ok reply, next.service) := by
  rw [execute] at h
  rcases hrun : l.service.execute command args with ⟨answer, state⟩
  rw [hrun] at h
  cases h
  rfl

/-- A command of a layer that fails leaves the layer. -/
lemma Layer.atomic_execute (l : Layer) (command : CommandId) (args : String) :
    Machine.Atomic l (l.execute command args) := by
  intro fault hfault
  exact congrArg (fun service => { l with service })
    (l.service.atomic_execute command args fault hfault)

namespace Daemon

/-- A command that fails puts its layer back as it was, which leaves the daemon, and one that succeeds
changes its layer alone. -/
lemma execute_cases {d : Daemon} {id : LayerId} {l : Layer} (hl : d.layers.get? id = some l)
    (command : CommandId) (args : String) :
    (∃ fault, l.execute command args = (.error fault, l) ∧
        d.execute id command args = (.error (.command fault.message), d)) ∨
      ∃ reply next, l.execute command args = (.ok reply, next) ∧
        d.execute id command args = (.ok reply, ⟨d.layers.insert id next⟩) := by
  have hatomic := l.atomic_execute command args
  rw [execute, hl]
  rcases hrun : l.execute command args with ⟨fault | reply, next⟩
  · rw [hrun] at hatomic
    obtain rfl : next = l := hatomic fault rfl
    refine .inl ⟨fault, rfl, ?_⟩
    simp only [hrun, relay, Table.insert_of_get? hl]
  · refine .inr ⟨reply, next, rfl, ?_⟩
    simp only [hrun, relay]

end Daemon

namespace Config

/-- The daemon runs the enabled layers of the configuration, each in a populated state of its kind,
and no disabled one. -/
structure Hosts (c : Config) (d : Daemon) : Prop where
  enabled : ∀ l ∈ c.layers, l.enabled = true →
    ∃ running, d.layers.get? l.id = some running ∧ running.service.kind = l.kind ∧
      running.service.Populated
  disabled : ∀ l ∈ c.layers, l.enabled = false → d.layers.get? l.id = none

variable {c : Config} {d : Daemon}

/-- An enabled layer of a well-formed configuration runs in its initial state. -/
lemma WellFormed.get?_daemon (h : c.WellFormed) {l : LayerSettings} (hl : l ∈ c.layers)
    (hon : l.enabled = true) : c.daemon.layers.get? l.id = some l.build := by
  rw [daemon, Daemon.get?_ofLayers]
  refine find?_eq_some_of_unique (by simpa using ⟨l, ⟨hl, hon⟩, rfl⟩) (beq_self_eq_true _) ?_
  intro running hrunning hid
  obtain ⟨k, ⟨hk, -⟩, rfl⟩ : ∃ k, (k ∈ c.layers ∧ k.enabled = true) ∧ k.build = running := by
    simpa using hrunning
  rw [h.eq_of_id hk hl (beq_iff_eq.mp hid)]

/-- The daemon of a well-formed configuration hosts what the configuration says. -/
lemma WellFormed.hosts_daemon (h : c.WellFormed) : c.Hosts c.daemon := by
  refine ⟨fun l hl hon => ⟨l.build, h.get?_daemon hl hon, Service.kind_initial l.kind,
    Service.populated_initial l.kind⟩, fun l hl hoff => ?_⟩
  rw [daemon, Daemon.get?_ofLayers, List.find?_eq_none]
  intro running hrunning hid
  obtain ⟨k, ⟨hk, hon⟩, rfl⟩ : ∃ k, (k ∈ c.layers ∧ k.enabled = true) ∧ k.build = running := by
    simpa using hrunning
  rw [h.eq_of_id hk hl (beq_iff_eq.mp hid), hoff] at hon
  cases hon

namespace Hosts

variable (h : c.Hosts d)

include h

/-- The menu of an enabled layer is that of its kind. -/
lemma getMenu_enabled {l : LayerSettings} (hl : l ∈ c.layers) (hon : l.enabled = true) :
    d.getMenu l.id = .ok l.kind.menu := by
  obtain ⟨running, hget, hkind, -⟩ := h.enabled l hl hon
  rw [Daemon.getMenu, hget, ← hkind]
  rfl

/-- A disabled layer is not running. -/
lemma getMenu_disabled {l : LayerSettings} (hl : l ∈ c.layers) (hoff : l.enabled = false) :
    d.getMenu l.id = .error (.notRunning l.id) := by
  rw [Daemon.getMenu, h.disabled l hl hoff]

/-- No command starts or stops a layer or changes the kind of one. -/
lemma execute (id : LayerId) (command : CommandId) (args : String) :
    c.Hosts (d.execute id command args).2 := by
  cases hget : d.layers.get? id with
  | none =>
      rw [Daemon.execute, hget]
      exact h
  | some running =>
      rcases Daemon.execute_cases hget command args with
        ⟨fault, -, hrun⟩ | ⟨reply, next, hok, hrun⟩
      · rw [hrun]
        exact h
      · rw [hrun]
        refine ⟨fun l hl hon => ?_, fun l hl hoff => ?_⟩
        · obtain ⟨before, hbefore, hkind, hpop⟩ := h.enabled l hl hon
          by_cases hid : id = l.id
          · -- the layer that ran the command: its kind and population are kept
            subst hid
            obtain rfl : running = before := Option.some.inj (hget.symm.trans hbefore)
            obtain ⟨-, hkind', hpop'⟩ := hpop.execute_ok (Layer.execute_ok hok)
            exact ⟨next, Table.get?_insert_self .., hkind'.trans hkind, hpop'⟩
          · exact ⟨before, by rw [Table.get?_insert_of_ne _ _ hid, hbefore], hkind, hpop⟩
        · have hid : id ≠ l.id := by
            rintro rfl
            rw [h.disabled l hl hoff] at hget
            cases hget
          rw [Table.get?_insert_of_ne _ _ hid, h.disabled l hl hoff]

/-- A listed command of an enabled layer is known to it, and is answered with a text that is not
empty or refused by the layer. -/
lemma answer {l : LayerSettings} (hl : l ∈ c.layers) (hon : l.enabled = true)
    {command : CommandId} (hcommand : ∃ k ∈ l.kind.menu.commands, k.id = command)
    (args : String) :
    (∃ running, d.layers.get? l.id = some running ∧
        ∀ id, (running.execute command args).1 ≠ .error (.unknownCommand id)) ∧
      ((∃ text, text ≠ "" ∧ (d.execute l.id command args).1 = .ok text) ∨
        ∃ reason, (d.execute l.id command args).1 = .error (.command reason)) := by
  obtain ⟨running, hget, hkind, hpop⟩ := h.enabled l hl hon
  rw [← hkind] at hcommand
  refine ⟨⟨running, hget, (Service.handles_execute hpop hcommand args).known⟩, ?_⟩
  rcases Daemon.execute_cases hget command args with ⟨fault, -, hrun⟩ | ⟨reply, next, hok, hrun⟩
  · exact .inr ⟨fault.message, by rw [hrun]⟩
  · exact .inl ⟨reply, (hpop.execute_ok (Layer.execute_ok hok)).1, by rw [hrun]⟩

end Hosts

end Config

end DaemonConsole
