/-
Layers of one daemon do not know of each other.

Under each identifier a daemon hosts the layer that was inserted there last, or the one that it
started with. In any run of calls this layer behaves as it would alone: it has carried out the
commands for its identifier since it was hosted, and nothing else.

* `Daemon.hosted?`, `Daemon.since`: the layer hosted under an identifier, as it was when it was hosted,
  and the commands for it since then, both read off the calls;
* `Daemon.get?_after`: a daemon holds under an identifier what these commands make of this layer;
* `Layer.answers_build`: a layer freshly built answers as any other of its kind;
* `Daemon.layers_isolated`: every answer of a run is that of one layer alone, and commands for
  different layers may change places.
-/
import DaemonConsole.Proofs.Channel.Calls

namespace DaemonConsole

/-! ### A layer alone -/

namespace Layer

/-- The answers of a layer alone to a list of commands. -/
def answers (l : Layer) (is : List Invocation) : List (Except LayerError String) :=
  Machine.answers perform l is

/-- What a list of commands leaves of a layer alone. -/
def after (l : Layer) (is : List Invocation) : Layer :=
  Machine.after perform l is

/-- The menu of a layer is that of its kind, so no command changes it. -/
lemma menu_after (l : Layer) (is : List Invocation) : (l.after is).menu = l.menu := by
  induction is generalizing l with
  | nil => rfl
  | cons i is ih => exact (ih _).trans (congrArg LayerKind.menu (l.kind_perform i))

/-- Layers in one state give one answer and are left in one state. -/
lemma perform_of_service_eq {l k : Layer} (h : l.service = k.service) (i : Invocation) :
    (l.perform i).1 = (k.perform i).1 ∧ (l.perform i).2.service = (k.perform i).2.service := by
  rw [perform, perform, execute, execute, h]
  exact ⟨rfl, rfl⟩

/-- Whatever a freshly built layer is called, it answers as its kind does. -/
lemma answers_build (kind : LayerKind) (id id' : LayerId) (name name' : String)
    (is : List Invocation) : (build kind id name).answers is = (build kind id' name').answers is :=
  Machine.answers_eq_of_simulation (R := fun l k => l.service = k.service)
    (fun _ _ i h => perform_of_service_eq h i) rfl is

end Layer

/-! ### What the calls before say of an identifier -/

namespace Call

/-- The layer that a call hosts under an identifier, if it hosts one there. -/
def inserted? (id : LayerId) : Call → Option Layer
  | insert l => if l.id = id then some l else none
  | _ => none

/-- The command that a call runs for an identifier, if it runs one for it. -/
def invocation? (id : LayerId) : Call → Option Invocation
  | execute k i => if k = id then some i else none
  | _ => none

end Call

namespace Daemon

/-- The layer hosted under an identifier behind some calls, as it was when it was hosted: the one
inserted last, or the one that the daemon started with. -/
def hosted? (d : Daemon) (past : List Call) (id : LayerId) : Option Layer :=
  (past.reverse.findSome? (Call.inserted? id)).or (d.layers.get? id)

/-- The commands for an identifier since the last insertion under it, the oldest first. -/
def since (past : List Call) (id : LayerId) : List Invocation :=
  (past.reverse.takeWhile fun c => (c.inserted? id).isNone).reverse.filterMap (Call.invocation? id)

/-- What a layer alone answers to a call: the one hosted under the identifier, after the commands for
it since then. -/
def answerAlone (d : Daemon) (past : List Call) : Call → Answer
  | .insert _ => .hosted
  | .getMenu id => .menu (menuOf (d.hosted? past id) id)
  | .execute id i => .reply (replyOf ((d.hosted? past id).map (Layer.after · (since past id))) id i)

variable (d : Daemon) (past : List Call) (id : LayerId)

/-- One more call may host another layer. -/
lemma hosted?_concat (c : Call) :
    d.hosted? (past ++ [c]) id = (c.inserted? id).or (d.hosted? past id) := by
  rw [hosted?, List.reverse_append, List.reverse_singleton, List.singleton_append,
    List.findSome?_cons]
  cases c.inserted? id with
  | none => rfl
  | some l => rfl

/-- A call that hosts a layer leaves no commands since. -/
lemma since_concat_of_inserted {c : Call} {l : Layer} (h : c.inserted? id = some l) :
    since (past ++ [c]) id = [] := by
  rw [since, List.reverse_append, List.reverse_singleton, List.singleton_append,
    List.takeWhile_cons_of_neg (by simp [h])]
  rfl

/-- Any other call adds its command, if it runs one for the identifier. -/
lemma since_concat {c : Call} (h : c.inserted? id = none) :
    since (past ++ [c]) id = since past id ++ (c.invocation? id).toList := by
  rw [since, List.reverse_append, List.reverse_singleton, List.singleton_append,
    List.takeWhile_cons_of_pos (by simp [h]), List.reverse_cons, List.filterMap_append]
  refine congrArg (since past id ++ ·) ?_
  cases hinv : c.invocation? id with
  | none => simp [hinv]
  | some i => simp [hinv]

/-- A call hosts its layer in place of what was there, and otherwise runs its command on what is
there. -/
lemma get?_perform (c : Call) :
    (d.perform c).2.layers.get? id
      = (c.inserted? id).or ((d.layers.get? id).map (Layer.after · (c.invocation? id).toList)) := by
  have hsame : (d.layers.get? id).map (Layer.after · []) = d.layers.get? id := Option.map_id'
  cases c with
  | insert l =>
      by_cases hid : l.id = id
      · subst hid
        rw [Call.inserted?, if_pos rfl]
        exact Table.get?_insert_self ..
      · rw [Call.inserted?, if_neg hid, Option.none_or]
        exact (Table.get?_insert_of_ne _ l hid).trans hsame.symm
  | getMenu k => exact hsame.symm
  | execute k i =>
      have hrun := get?_execute d k i id
      by_cases hk : k = id
      · subst hk
        rw [if_pos rfl] at hrun
        rw [Call.invocation?, if_pos rfl]
        exact hrun
      · rw [if_neg hk] at hrun
        rw [Call.invocation?, if_neg hk]
        exact hrun.trans hsame.symm

/-- The daemon behind some calls. -/
def after (calls : List Call) : Daemon :=
  Machine.after perform d calls

/-- The answers of a daemon to calls. -/
def answers (calls : List Call) : List Answer :=
  Machine.answers perform d calls

/-- **A daemon holds its layers as they would be alone**: under an identifier it holds the layer
hosted there, as the commands for it since then leave it. -/
theorem get?_after :
    (d.after past).layers.get? id = (d.hosted? past id).map (Layer.after · (since past id)) := by
  induction past using List.reverseRecOn with
  | nil => exact (Option.map_id' (x := d.layers.get? id)).symm
  | append_singleton past c ih =>
      rw [after, Machine.after_concat, get?_perform, hosted?_concat]
      cases hins : c.inserted? id with
      | some l =>
          rw [since_concat_of_inserted past id hins]
          rfl
      | none =>
          have hprev : (Machine.after perform d past).layers.get? id = _ := ih
          rw [since_concat past id hins, Option.none_or, Option.none_or, hprev, Option.map_map]
          congr 1
          funext l
          exact (Machine.after_append Layer.perform l _ _).symm

/-- Every answer of a run is that of one layer alone. -/
lemma perform_after (c : Call) : ((d.after past).perform c).1 = d.answerAlone past c := by
  cases c with
  | insert l => rfl
  | getMenu k =>
      rw [perform, getMenu_eq, get?_after, answerAlone]
      cases d.hosted? past k with
      | none => rfl
      | some l => exact congrArg (fun m => Answer.menu (.ok m)) (l.menu_after _)
  | execute k i => rw [perform, execute_reply, get?_after, answerAlone]

/-- Two adjacent commands for different identifiers may change places. -/
lemma answers_swap (before later : List Call) (i j : Invocation) {k : LayerId} (hne : id ≠ k) :
    ∃ first second rest,
      d.answers (before ++ .execute id i :: .execute k j :: later)
          = d.answers before ++ first :: second :: rest ∧
        d.answers (before ++ .execute k j :: .execute id i :: later)
          = d.answers before ++ second :: first :: rest ∧
        d.after (before ++ .execute k j :: .execute id i :: later)
          = d.after (before ++ .execute id i :: .execute k j :: later) := by
  have hrun : ∀ a b : Call, d.answers (before ++ a :: b :: later)
      = d.answers before ++ ((d.after before).perform a).1
          :: (((d.after before).perform a).2.perform b).1
          :: Machine.answers perform (((d.after before).perform a).2.perform b).2 later :=
    fun a b => Machine.answers_append perform d before (a :: b :: later)
  have hfirst := execute_reply_comm (d.after before) id i j hne
  have hsecond := execute_reply_comm (d.after before) k j i hne.symm
  have hstate := execute_state_comm (d.after before) id i j hne
  refine ⟨.reply ((d.after before).execute id i.command i.args).1,
    .reply ((d.after before).execute k j.command j.args).1,
    Machine.answers perform
      (((d.after before).execute id i.command i.args).2.execute k j.command j.args).2 later,
    ?_, ?_, ?_⟩
  · rw [hrun, ← hsecond]
    rfl
  · rw [hrun, ← hfirst, ← hstate]
    rfl
  · rw [after, after, Machine.after_append, Machine.after_append]
    exact congrArg (Machine.after perform · later) hstate

/-- **Layers are isolated**: in every run of calls over any daemon,
* every answer is that of one layer alone, the one hosted last under the identifier of the call, after
  the commands for this identifier since it was hosted;
* a command for an identifier under which nothing is hosted is not delivered, no menu is given for it,
  and neither changes the daemon;
* the daemon of a configuration starts with its enabled layers freshly built, the last of each
  identifier, and what a freshly built layer answers alone depends on its kind only;
* two adjacent commands for different identifiers may change places: all answers stay what they are,
  and so does the daemon in the end. -/
theorem layers_isolated (d : Daemon) (calls : List Call) :
    d.answers calls = ((withPast calls).map fun p => d.answerAlone p.1 p.2) ∧
      (∀ id, d.hosted? calls id = none →
        (∀ i, (d.after calls).perform (.execute id i)
            = (.reply (.error (.transport (notRunningText id))), d.after calls)) ∧
          (d.after calls).perform (.getMenu id) = (.menu (.error (.notRunning id)), d.after calls)) ∧
      (∀ (c : Config) id, c.daemon.hosted? [] id
        = ((c.layers.filter (·.enabled)).map LayerSettings.build).reverse.find? (·.id == id)) ∧
      (∀ kind id id' name name' is,
        (Layer.build kind id name).answers is = (Layer.build kind id' name').answers is) ∧
      (∀ before id i k j later, id ≠ k →
        ∃ first second rest,
          d.answers (before ++ .execute id i :: .execute k j :: later)
              = d.answers before ++ first :: second :: rest ∧
            d.answers (before ++ .execute k j :: .execute id i :: later)
              = d.answers before ++ second :: first :: rest ∧
            d.after (before ++ .execute k j :: .execute id i :: later)
              = d.after (before ++ .execute id i :: .execute k j :: later)) := by
  refine ⟨?_, fun id hnone => ?_, fun c id => get?_ofLayers _ id, Layer.answers_build,
    fun before id i k j later hne => d.answers_swap id before later i j hne⟩
  · rw [answers, Machine.answers_eq_map]
    exact List.map_congr_left fun p _ => d.perform_after p.1 p.2
  · have hget : (d.after calls).layers.get? id = none := by
      rw [get?_after, hnone, Option.map_none]
    refine ⟨fun i => ?_, ?_⟩
    · rw [perform, execute_of_none _ id i hget]
    · rw [perform, getMenu_eq, hget]
      rfl

end Daemon

end DaemonConsole
