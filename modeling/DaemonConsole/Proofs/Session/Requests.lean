/-
What a session asks of its channel.

Each line makes at most one request. Which one is read off the place and the record alone: a listed
word at the root asks for the menu of its layer, and inside a layer a word of the menu that the
last load gave runs its command there. So no command is ever sent to another layer than the one
whose menu it was found in.

* `Session.requestOf?`: the request of a line, from the location and the record before it;
* `Isolated`: every command of a record belongs to the menu of the load before it;
* `Session.requests_after`: the record of a run is the request of each line in turn, and it is
  isolated.
-/
import DaemonConsole.Proofs.Past
import DaemonConsole.Proofs.Session.Coherence

namespace DaemonConsole

/-- The menu that the last load of a record gave, if there was a load and it gave one. -/
def loadedMenu? (record : List Exchange) : Option Menu :=
  match lastLoad? record with
  | some (_, .ok menu) => some menu
  | _ => none

/-- A command is sanctioned by the exchanges before it if the last load among them was of the same
layer and gave a menu with the command. A load needs no sanction. -/
def Exchange.Sanctioned (past : List Exchange) : Exchange → Prop
  | getMenu .. => True
  | execute layer command _ _ =>
      ∃ menu, lastLoad? past = some (layer, .ok menu) ∧ ∃ c ∈ menu.commands, c.id = command

/-- Every exchange of the record is sanctioned by those before it. -/
def Isolated (record : List Exchange) : Prop :=
  ∀ past e later, record = past ++ e :: later → e.Sanctioned past

/-- A sanctioned exchange may be added at the end. -/
lemma Isolated.concat {record : List Exchange} {e : Exchange} (h : Isolated record)
    (he : e.Sanctioned record) : Isolated (record ++ [e]) := by
  intro past e' later heq
  rcases List.eq_nil_or_concat' later with rfl | ⟨later', last, rfl⟩
  · obtain ⟨hpast, hlast⟩ := List.append_inj' heq rfl
    obtain rfl : e = e' := by simpa using hlast
    rw [← hpast]
    exact he
  · rw [← List.cons_append, ← List.append_assoc] at heq
    exact h past e' later' (List.append_inj' heq rfl).1

namespace Session

variable {σ : Type} {root : Menu} {product : String}

/-- The request that a line makes of the channel, from the location before it and the record of
the exchanges before it. The exit word, a blank line and an unknown word make none. -/
def requestOf? (root : Menu) (location : Location) (record : List Exchange) (line : String) :
    Option Request :=
  match Text.splitFirst line with
  | none => none
  | some (word, rest) =>
    if word = exitWord then none
    else
      match location with
      | .root => (root.find? word).map fun c => .getMenu c.id
      | .layer layer =>
        ((loadedMenu? record).bind fun menu => menu.find? word).map fun c =>
          .execute layer c.id rest

/-- The requests that a session has made, the oldest first. -/
def requests (s : Session (Recorder σ)) : List Request :=
  s.record.map Exchange.request

/-- Inside a layer the menu that the last load gave is the active one. -/
lemma Grounded.loadedMenu?_eq {s : Session (Recorder σ)} (h : Grounded root product s)
    {layer : LayerId} {menu : Menu} (hplace : s.place = .inside layer menu) :
    loadedMenu? s.record = some menu := by
  rw [loadedMenu?, h.lastLoad_eq layer menu hplace]

/-- An exchange at the end of the record is a request at the end of the requests. -/
lemma requests_of_record {s next : Session (Recorder σ)} (e : Exchange)
    (h : next.record = s.record ++ [e]) : next.requests = s.requests ++ [e.request] := by
  rw [requests, requests, h, List.map_append]
  rfl

variable [ControlChannel σ]

/-- A line adds the request that `requestOf?` reads off the place and the record, and no other. -/
lemma Grounded.requests_step {s next : Session (Recorder σ)} {line : String} {outcome : Outcome}
    (h : Grounded root product s) (hstep : Step s line outcome next) :
    next.requests = s.requests ++ (requestOf? root s.location s.record line).toList := by
  cases hstep with
  | blank hsplit =>
      rw [requestOf?, hsplit, Option.toList_none, List.append_nil]
  | leave hsplit => simp [requestOf?, hsplit]
  | ascend hsplit => simp [requestOf?, hsplit, requests, record, enterRoot]
  | unresolved hsplit hword hfind =>
      cases hplace : s.place with
      | root =>
          rw [activeMenu, hplace, h.rootMenu_eq] at hfind
          simp [requestOf?, location, hsplit, hword, hplace, hfind]
      | inside layer menu =>
          rw [activeMenu, hplace] at hfind
          simp [requestOf?, location, hsplit, hword, hplace, h.loadedMenu?_eq hplace, hfind]
  | @enter word rest command _ _ hsplit hword hplace hfind hmenu =>
      have hreq : requestOf? root s.location s.record line = some (.getMenu command.id) := by
        rw [h.rootMenu_eq] at hfind
        simp [requestOf?, location, hsplit, hword, hplace, hfind]
      rw [hreq, Option.toList_some]
      exact requests_of_record (.getMenu command.id _) (Recorder.getMenu_eq hmenu).2
  | @refuse word rest command _ _ hsplit hword hplace hfind hmenu =>
      have hreq : requestOf? root s.location s.record line = some (.getMenu command.id) := by
        rw [h.rootMenu_eq] at hfind
        simp [requestOf?, location, hsplit, hword, hplace, hfind]
      rw [hreq, Option.toList_some]
      exact requests_of_record (.getMenu command.id _) (Recorder.getMenu_eq hmenu).2
  | @run word rest layer menu command _ _ hsplit hword hplace hfind hanswer =>
      have hreq : requestOf? root s.location s.record line
          = some (.execute layer command.id rest) := by
        simp [requestOf?, location, hsplit, hword, hplace, h.loadedMenu?_eq hplace, hfind]
      rw [hreq, Option.toList_some]
      exact requests_of_record (.execute layer command.id rest _) (Recorder.execute_eq hanswer).2

/-- The request of a line behind others that the session has handled. -/
def requestBehind? (root : Menu) (s : Session (Recorder σ)) (p : List String × String) :
    Option Request :=
  requestOf? root (s.after p.1).location (s.after p.1).record p.2

/-- The requests of a run from a grounded session: one for each line that makes one, read off the
session that the lines before it leave. -/
lemma Grounded.requests_run {s : Session (Recorder σ)} (h : Grounded root product s)
    (lines : List String) :
    (s.after lines).requests = s.requests ++ (withPast lines).filterMap (requestBehind? root s) := by
  induction lines generalizing s with
  | nil => simp
  | cons line lines ih =>
      have hstep := step_submit s line
      calc (s.after (line :: lines)).requests
          = (s.submit line).2.requests
              ++ (withPast lines).filterMap (requestBehind? root (s.submit line).2) :=
            ih (h.step hstep)
        _ = s.requests ++ ((requestBehind? root s ([], line)).toList
              ++ (withPast lines).filterMap fun p => requestBehind? root s (line :: p.1, p.2)) := by
            rw [h.requests_step hstep, List.append_assoc]
            rfl
        _ = s.requests ++ (withPast (line :: lines)).filterMap (requestBehind? root s) := by
            rw [filterMap_withPast_cons]

/-- Every rule keeps the record isolated: a command is sent only from inside the layer whose menu
the last load gave. -/
lemma Grounded.isolated_step {s next : Session (Recorder σ)} {line : String} {outcome : Outcome}
    (h : Grounded root product s) (hiso : Isolated s.record) (hstep : Step s line outcome next) :
    Isolated next.record := by
  cases hstep with
  | blank => exact hiso
  | leave => exact hiso
  | ascend => exact hiso
  | unresolved => exact hiso
  | enter _ _ _ _ hmenu =>
      rw [record, (Recorder.getMenu_eq hmenu).2]
      exact hiso.concat trivial
  | refuse _ _ _ _ hmenu =>
      rw [record, (Recorder.getMenu_eq hmenu).2]
      exact hiso.concat trivial
  | run _ _ hplace hfind hanswer =>
      rw [record, (Recorder.execute_eq hanswer).2]
      exact hiso.concat
        ⟨_, h.lastLoad_eq _ _ hplace, _, Menu.mem_of_find? hfind, rfl⟩

/-- The record of every run from the root is isolated. -/
lemma isolated_after (root : Menu) (product : String) (channel : σ) (lines : List String) :
    Isolated ((start root (Recorder.start channel) product).after lines).record := by
  have hstart : Isolated (start root (Recorder.start channel) product).record := by
    intro past e later heq
    simp [record, start, Recorder.start] at heq
  have hrun := after_induction
    (P := fun s => Grounded root product s ∧ Isolated s.record)
    ⟨grounded_start root product channel, hstart⟩
    (fun hstep h => ⟨h.1.step hstep, h.1.isolated_step h.2 hstep⟩) lines
  exact hrun.2

/-- **Request discipline**: the requests of a run from the root are those of its lines in turn, at
most one for each, read off the location and the record before the line; and before every command
in the record stands a load of the same layer, with no load between them, that gave a menu with
the command. -/
theorem requests_after (root : Menu) (product : String) (channel : σ) (lines : List String) :
    let s := start root (Recorder.start channel) product
    (s.after lines).requests
        = ((withPast lines).filterMap fun p =>
            requestOf? root (s.after p.1).location (s.after p.1).record p.2) ∧
      ∀ past layer command args answer later,
        (s.after lines).record = past ++ .execute layer command args answer :: later →
          ∃ before menu between, past = before ++ .getMenu layer (.ok menu) :: between ∧
            (∀ e ∈ between, e.load? = none) ∧ ∃ c ∈ menu.commands, c.id = command := by
  intro s
  refine ⟨?_, fun past layer command args answer later heq => ?_⟩
  · rw [(grounded_start root product channel).requests_run lines]
    rfl
  · obtain ⟨menu, hload, hmem⟩ := isolated_after root product channel lines _ _ _ heq
    obtain ⟨before, between, hpast, hnone⟩ := lastLoad?_eq_some_iff.mp hload
    exact ⟨before, menu, between, hpast, hnone, hmem⟩

end Session

end DaemonConsole
