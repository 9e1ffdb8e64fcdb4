/-
Commands that leave no trace in a daemon.

A command that fails leaves every layer as it is, and so does one that only tells about the state of
its layer. The other commands of a run cannot know whether such a command was given.

* `Daemon.kind?`: the kind of the layer hosted under an identifier, which no command changes;
* `Daemon.leavesNoTrace`: which commands fail or only tell about the state, read off the command and
  its reply;
* `Daemon.erase_traceless`: a run of commands does without these.
-/
import DaemonConsole.Proofs.Channel.Calls

namespace DaemonConsole

/-- A command that fails or only tells about the state leaves its layer. -/
lemma Layer.snd_perform {l : Layer} {i : Invocation}
    (h : ∀ reply, (l.perform i).1 = .ok reply → l.service.kind.isQuery i.command = true) :
    (l.perform i).2 = l := by
  cases hanswer : (l.perform i).1 with
  | error fault => exact l.atomic_execute i.command i.args fault hanswer
  | ok reply =>
      have hstate := l.service.state_of_query (h reply hanswer) i.args
      exact congrArg (fun service => { l with service }) hstate

namespace Daemon

/-- A command for an identifier, as the step of a machine. -/
def command (d : Daemon) (c : LayerId × Invocation) : Except ExecError String × Daemon :=
  d.execute c.1 c.2.command c.2.args

/-- The kind of the layer that is hosted under an identifier. -/
def kind? (d : Daemon) (id : LayerId) : Option LayerKind :=
  (d.layers.get? id).map (·.service.kind)

/-- Whether a command fails or only tells about the state of its layer, by its reply and by the kinds
of the layers of a daemon. -/
def leavesNoTrace (d : Daemon) (c : LayerId × Invocation) : Except ExecError String → Bool
  | .error _ => true
  | .ok _ => (d.kind? c.1).any (·.isQuery c.2.command)

/-- No command changes the kind of a layer. -/
lemma kind?_command (d : Daemon) (c : LayerId × Invocation) : (d.command c).2.kind? = d.kind? := by
  funext id
  rw [kind?, command, get?_execute]
  by_cases hid : c.1 = id
  · subst hid
    rw [if_pos rfl, Option.map_map, kind?]
    exact congrArg (Option.map · (d.layers.get? c.1)) (funext fun l => l.kind_perform c.2)
  · rw [if_neg hid, kind?]

/-- A command that fails or only tells about the state leaves the daemon. -/
lemma command_of_leavesNoTrace {d : Daemon} {c : LayerId × Invocation}
    (h : d.leavesNoTrace c (d.command c).1 = true) : (d.command c).2 = d := by
  rw [command] at h ⊢
  cases hget : d.layers.get? c.1 with
  | none => rw [execute_of_none d c.1 c.2 hget]
  | some l =>
      rw [execute_of_some d c.1 c.2 hget] at h ⊢
      have hkept : (l.perform c.2).2 = l := by
        refine Layer.snd_perform fun reply hreply => ?_
        rw [hreply, relay, leavesNoTrace, kind?, hget] at h
        exact h
      -- the layer is put back as it was
      rw [hkept, Table.insert_of_get? hget]

/-- **Failed commands and queries leave no trace**: of any run of commands, those that fail and those
that only tell about the state can be left out. The others get the replies that they get in the whole
run, and the daemon ends with the same layers in the same states. -/
theorem erase_traceless (d : Daemon) (calls : List (LayerId × Invocation)) :
    Machine.answers command d ((Machine.kept command d.leavesNoTrace d calls).map (·.1))
        = (Machine.kept command d.leavesNoTrace d calls).map (·.2) ∧
      Machine.after command d ((Machine.kept command d.leavesNoTrace d calls).map (·.1))
        = Machine.after command d calls := by
  have hkinds : ∀ (e : Daemon) c, e.kind? = d.kind? → (e.command c).2.kind? = d.kind? :=
    fun e c he => (e.kind?_command c).trans he
  have hidle : ∀ (e : Daemon) c, e.kind? = d.kind? → d.leavesNoTrace c (e.command c).1 = true →
      (e.command c).2 = e := by
    intro e c he htrace
    have hsame : e.leavesNoTrace c = d.leavesNoTrace c := by
      funext reply
      cases reply with
      | error fault => rfl
      | ok text => rw [leavesNoTrace, leavesNoTrace, he]
    exact command_of_leavesNoTrace ((congrFun hsame _).trans htrace)
  exact Machine.erase_idle hkinds hidle rfl calls

end Daemon

end DaemonConsole
