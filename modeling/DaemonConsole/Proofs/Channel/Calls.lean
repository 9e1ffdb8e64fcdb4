/-
Calls of a daemon, and the same commands given to a layer alone.

A call hosts a layer, asks for a menu or runs a command. What it does is said by the layer that is
hosted under its identifier before it: a command runs on this layer as it would run on the layer
alone, and no other layer takes part.

* `Layer.perform`, `Daemon.perform`: one command of a layer, one call of a daemon, as the steps of
  machines;
* `Daemon.execute_reply`: the reply to a command, from the layer hosted under its identifier;
* `Daemon.get?_execute`: the layers hosted after a command;
* `Daemon.execute_reply_comm`, `Daemon.execute_state_comm`: commands for different layers may change
  places.
-/
import DaemonConsole.Proofs.Channel.Hosting

namespace DaemonConsole

namespace Layer

/-- Runs a command of the layer. -/
def perform (l : Layer) (i : Invocation) : Except LayerError String × Layer :=
  l.execute i.command i.args

/-- No command changes the kind of a layer. -/
lemma kind_perform (l : Layer) (i : Invocation) :
    (l.perform i).2.service.kind = l.service.kind :=
  l.service.kind_execute i.command i.args

end Layer

/-- What can be asked of a daemon. -/
inductive Call where
  /-- To host a layer, in place of the one of its identifier. -/
  | insert (layer : Layer)
  /-- For the menu of a layer. -/
  | getMenu (id : LayerId)
  /-- To run a command of a layer. -/
  | execute (id : LayerId) (invocation : Invocation)

/-- What a daemon answers to a call. -/
inductive Answer where
  | hosted
  | menu (answer : Except LoadError Menu)
  | reply (answer : Except ExecError String)

/-- The reply to a command for the layer of an identifier, if one is hosted. -/
def replyOf (host : Option Layer) (id : LayerId) (i : Invocation) : Except ExecError String :=
  match host with
  | none => .error (.transport (notRunningText id))
  | some l => relay (l.perform i).1

/-- The answer to a request for the menu of an identifier, from the layer hosted under it. -/
def menuOf (host : Option Layer) (id : LayerId) : Except LoadError Menu :=
  match host with
  | none => .error (.notRunning id)
  | some l => .ok l.menu

namespace Daemon

/-- Carries out a call. -/
def perform (d : Daemon) : Call → Answer × Daemon
  | .insert l => (.hosted, d.insert l)
  | .getMenu id => (.menu (d.getMenu id), d)
  | .execute id i => (.reply (d.execute id i.command i.args).1, (d.execute id i.command i.args).2)

variable (d : Daemon) (id : LayerId) (i : Invocation)

/-- The menu of an identifier is that of the layer hosted under it. -/
lemma getMenu_eq : d.getMenu id = menuOf (d.layers.get? id) id := by
  cases hget : d.layers.get? id with
  | none => rw [getMenu, hget]; rfl
  | some l => rw [getMenu, hget]; rfl

/-- A command for an identifier under which nothing is hosted does not reach a layer. -/
lemma execute_of_none (h : d.layers.get? id = none) :
    d.execute id i.command i.args = (.error (.transport (notRunningText id)), d) := by
  rw [execute, h]

/-- Any other command runs on its layer, which is put back as the command leaves it. -/
lemma execute_of_some {l : Layer} (h : d.layers.get? id = some l) :
    d.execute id i.command i.args
      = (relay (l.perform i).1, ⟨d.layers.insert id (l.perform i).2⟩) := by
  rw [execute, h]
  rfl

/-- The reply to a command is that of the layer hosted under its identifier. -/
lemma execute_reply : (d.execute id i.command i.args).1 = replyOf (d.layers.get? id) id i := by
  cases hget : d.layers.get? id with
  | none => rw [execute_of_none d id i hget]; rfl
  | some l => rw [execute_of_some d id i hget]; rfl

/-- After a command its layer is what the command leaves of it, and the others are as before. -/
lemma get?_execute (k : LayerId) :
    (d.execute id i.command i.args).2.layers.get? k
      = if id = k then (d.layers.get? id).map fun l => (l.perform i).2 else d.layers.get? k := by
  by_cases hk : id = k
  · subst hk
    rw [if_pos rfl]
    cases hget : d.layers.get? id with
    | none => rw [execute_of_none d id i hget, hget]; rfl
    | some l => rw [execute_of_some d id i hget, Table.get?_insert_self, Option.map_some]
  · rw [if_neg hk]
    cases hget : d.layers.get? id with
    | none => rw [execute_of_none d id i hget]
    | some l => rw [execute_of_some d id i hget, Table.get?_insert_of_ne _ _ hk]

/-- A command for another layer does not change the reply. -/
lemma execute_reply_comm {k : LayerId} (j : Invocation) (h : id ≠ k) :
    ((d.execute k j.command j.args).2.execute id i.command i.args).1
      = (d.execute id i.command i.args).1 := by
  rw [execute_reply, execute_reply, get?_execute, if_neg (Ne.symm h)]

/-- Commands for different layers leave the same layers in either order. -/
lemma execute_state_comm {k : LayerId} (j : Invocation) (h : id ≠ k) :
    ((d.execute k j.command j.args).2.execute id i.command i.args).2
      = ((d.execute id i.command i.args).2.execute k j.command j.args).2 := by
  suffices hlayers : ((d.execute k j.command j.args).2.execute id i.command i.args).2.layers
      = ((d.execute id i.command i.args).2.execute k j.command j.args).2.layers from
    congrArg Daemon.mk hlayers
  refine Table.ext_get? fun a => ?_
  simp only [get?_execute, if_neg h, if_neg (Ne.symm h)]
  by_cases hid : id = a
  · have hk : k ≠ a := fun hk => h (hid.trans hk.symm)
    rw [if_pos hid, if_neg hk, if_pos hid]
  · rw [if_neg hid, if_neg hid]

end Daemon

end DaemonConsole
