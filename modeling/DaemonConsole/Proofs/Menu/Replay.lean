/-
Any calls of a line editor.

A line editor may start a round at any call, leave it before its end and go on asking behind it. The
first call starts a round, and so does one with the state `0` and one for another stem than the call
before it. So a call is known from its place behind the last start: it gives the candidate of its stem
at this place, and nothing behind the last candidate.

* `Rounds.Call`, `Rounds.replies`: the calls, and what they give;
* `Rounds.StartsRound`, `Rounds.LastStart`: the calls that start a round, and the last of them at or
  before a call; `exists_lastStart` and `LastStart.unique`: there is one for every call;
* `Rounds.ahead_cursorFor`: the candidates ahead of the cursor that a call goes to;
* `Rounds.rounds_replayed`: what every call gives.
-/
import DaemonConsole.Proofs.Menu.Rounds
import Mathlib.Data.List.Forall2

namespace DaemonConsole.Completion.Rounds

/-! ### Calls -/

/-- One call: the stem that is to be completed, and the state that the line editor passes. -/
structure Call where
  stem : String
  state : Nat
  deriving DecidableEq, Repr

/-- The protocol as a machine that takes one call after another. -/
def step (m : Menu) (r : Rounds) (call : Call) : Option String × Rounds :=
  r.next m call.stem call.state

/-- What calls give when no round is in progress before the first. -/
def replies (m : Menu) (calls : List Call) : List (Option String) :=
  Machine.answers (step m) {} calls

/-- The call at a place starts a round. -/
inductive StartsRound (calls : List Call) : Nat → Prop
  /-- It is the first call. -/
  | first {call : Call} : calls[0]? = some call → StartsRound calls 0
  /-- Its state is `0`. -/
  | zero {k : Nat} {call : Call} : calls[k]? = some call → call.state = 0 → StartsRound calls k
  /-- The call before it is for another stem. -/
  | stem {k : Nat} {before call : Call} : calls[k]? = some before → calls[k + 1]? = some call →
      before.stem ≠ call.stem → StartsRound calls (k + 1)

/-- The last place at or before another one whose call starts a round. -/
structure LastStart (calls : List Call) (k start : Nat) : Prop where
  le : start ≤ k
  starts : StartsRound calls start
  goes_on : ∀ i, start < i → i ≤ k → ¬ StartsRound calls i

/-- Calls for the same stem that agree on whether their state is `0`. -/
def Alike (call other : Call) : Prop :=
  call.stem = other.stem ∧ (call.state = 0 ↔ other.state = 0)

variable {m : Menu} {calls : List Call} {k : Nat}

/-! ### The last start -/

/-- A call that starts no round goes on with the stem of the call before it, and its state is not
`0`. -/
lemma goes_on_iff {call : Call} (hcall : calls[k + 1]? = some call) :
    ¬ StartsRound calls (k + 1) ↔
      call.state ≠ 0 ∧ ∀ before, calls[k]? = some before → before.stem = call.stem := by
  constructor
  · intro hgoes
    refine ⟨fun hzero => hgoes (.zero hcall hzero), fun before hbefore => ?_⟩
    by_contra hstem
    exact hgoes (.stem hbefore hcall hstem)
  · rintro ⟨hstate, hstem⟩ hstarts
    cases hstarts with
    | zero hcall' hzero =>
        rw [hcall] at hcall'
        exact hstate (Option.some.inj hcall' ▸ hzero)
    | stem hbefore hcall' hne =>
        rw [hcall] at hcall'
        exact hne (Option.some.inj hcall' ▸ hstem _ hbefore)

/-- A call that starts a round is the last start at its place. -/
lemma StartsRound.lastStart (h : StartsRound calls k) : LastStart calls k k :=
  ⟨le_rfl, h, fun _ hlow hhigh => absurd hlow (Nat.not_lt.mpr hhigh)⟩

/-- Up to any call some round starts. -/
lemma exists_lastStart {call : Call} (hcall : calls[k]? = some call) :
    ∃ start, LastStart calls k start := by
  induction k generalizing call with
  | zero => exact ⟨0, (StartsRound.first hcall).lastStart⟩
  | succ k ih =>
      by_cases hstarts : StartsRound calls (k + 1)
      · exact ⟨k + 1, hstarts.lastStart⟩
      · have hk : k < calls.length := by
          have := (List.getElem?_eq_some_iff.mp hcall).1
          omega
        obtain ⟨start, hstart⟩ := ih (List.getElem?_eq_getElem hk)
        refine ⟨start, Nat.le_succ_of_le hstart.le, hstart.starts, fun i hlow hhigh => ?_⟩
        rcases Nat.lt_or_eq_of_le hhigh with hbefore | rfl
        · exact hstart.goes_on i hlow (Nat.le_of_lt_succ hbefore)
        · exact hstarts

namespace LastStart

variable {start other : Nat}

/-- There is one last start. -/
lemma unique (h : LastStart calls k start) (h' : LastStart calls k other) : other = start := by
  rcases Nat.lt_trichotomy other start with hlt | heq | hlt
  · exact absurd h.starts (h'.goes_on start hlt h.le)
  · exact heq
  · exact absurd h'.starts (h.goes_on other hlt h'.le)

/-- The last start of a call that starts no round is that of the call before it. -/
lemma of_goes_on (h : LastStart calls (k + 1) start) (hgoes : ¬ StartsRound calls (k + 1)) :
    LastStart calls k start where
  le := by
    rcases Nat.lt_or_eq_of_le h.le with hlt | rfl
    · exact Nat.le_of_lt_succ hlt
    · exact absurd h.starts hgoes
  starts := h.starts
  goes_on i hlow hhigh := h.goes_on i hlow (Nat.le_succ_of_le hhigh)

end LastStart

/-! ### The cursor of a call -/

/-- Before the first call there is no round to go on with. -/
lemma cursorFor_empty (stem : String) (state : Nat) :
    ({} : Rounds).cursorFor stem state = .ofStem stem := rfl

/-- A call for another stem than that of the last call starts a round. -/
lemma cursorFor_next_of_ne (r : Rounds) (m : Menu) {stem stem' : String} (state state' : Nat)
    (hstem : stem ≠ stem') : (r.next m stem state).2.cursorFor stem' state' = .ofStem stem' := by
  have hcursor : ((r.cursorFor stem state).next m).2.stem ≠ stem' := by
    rw [Cursor.next_stem, cursorFor_stem]
    exact hstem
  exact if_pos (.inr hcursor)

/-- The driver behind one call more. -/
lemma after_take_succ {before : Call} (hbefore : calls[k]? = some before) :
    Machine.after (step m) {} (calls.take (k + 1))
      = (step m (Machine.after (step m) {} (calls.take k)) before).2 := by
  rw [List.take_add_one, hbefore, Option.toList_some, Machine.after_concat]

/-- A call that starts a round goes to a new cursor. -/
lemma cursorFor_of_starts {call : Call} (hcall : calls[k]? = some call)
    (hstarts : StartsRound calls k) :
    (Machine.after (step m) {} (calls.take k)).cursorFor call.stem call.state
      = .ofStem call.stem := by
  cases hstarts with
  | first => exact cursorFor_empty _ _
  | zero hcall' hzero =>
      rw [hcall] at hcall'
      rw [Option.some.inj hcall', hzero, cursorFor_zero]
  | stem hbefore hcall' hne =>
      rw [hcall] at hcall'
      rw [Option.some.inj hcall', after_take_succ hbefore]
      exact cursorFor_next_of_ne _ m _ _ hne

/-- Ahead of the cursor that a call goes to are the candidates of its stem, but for as many as there
are calls from the last start up to it. -/
lemma ahead_cursorFor {call : Call} {start : Nat} (hcall : calls[k]? = some call)
    (hstart : LastStart calls k start) :
    ((Machine.after (step m) {} (calls.take k)).cursorFor call.stem call.state).ahead m
      = (candidates m call.stem).drop (k - start) := by
  induction k generalizing call with
  | zero =>
      rw [cursorFor_of_starts hcall (.first hcall), candidates, Cursor.remaining_eq_ahead,
        Nat.zero_sub, List.drop_zero]
  | succ k ih =>
      by_cases hstarts : StartsRound calls (k + 1)
      · obtain rfl := hstart.unique hstarts.lastStart
        rw [cursorFor_of_starts hcall hstarts, candidates, Cursor.remaining_eq_ahead, Nat.sub_self,
          List.drop_zero]
      · have hk : k < calls.length := by
          have := (List.getElem?_eq_some_iff.mp hcall).1
          omega
        have hbefore := List.getElem?_eq_getElem hk
        obtain ⟨hstate, hstem⟩ := (goes_on_iff hcall).mp hstarts
        have hstart' := hstart.of_goes_on hstarts
        -- the call goes on behind the cursor of the call before it
        rw [after_take_succ hbefore, step, ← hstem _ hbefore, cursorFor_next _ m _ _ hstate,
          Cursor.ahead_next, ih hbefore hstart', List.tail_drop, Nat.succ_sub hstart'.le]

/-! ### What calls give -/

/-- What a call gives is known from its place behind the last start. -/
lemma replies_getElem? {call : Call} {start : Nat} (hcall : calls[k]? = some call)
    (hstart : LastStart calls k start) :
    (replies m calls)[k]? = some ((candidates m call.stem)[k - start]?) := by
  have hpast : (withPast calls)[k]? = some (calls.take k, call) := by
    rw [withPast_getElem?, hcall]
    rfl
  rw [replies, Machine.answers_eq_map, List.getElem?_map, hpast, Option.map_some, step, next_fst,
    ahead_cursorFor hcall hstart, List.head?_drop]

/-- A state matters only by being `0`. -/
lemma step_congr (r : Rounds) {call other : Call} (h : Alike call other) :
    step m r call = step m r other := by
  have hcursor : r.cursorFor call.stem call.state = r.cursorFor other.stem other.state := by
    simp only [cursorFor, h.1, h.2]
  rw [step, step, next, next, hcursor]

/-- Calls that are alike one by one give the same. -/
lemma answers_congr (r : Rounds) {others : List Call} (h : List.Forall₂ Alike calls others) :
    Machine.answers (step m) r calls = Machine.answers (step m) r others := by
  induction h generalizing r with
  | nil => rfl
  | cons halike _ ih => rw [Machine.answers_cons, Machine.answers_cons, step_congr r halike, ih]

/-- Calls of one round are for one stem. -/
lemma stem_eq_of_goes_on {l : Nat} {call later : Call} (hle : k ≤ l) (hcall : calls[k]? = some call)
    (hlater : calls[l]? = some later) (hgoes : ∀ i, k < i → i ≤ l → ¬ StartsRound calls i) :
    call.stem = later.stem := by
  induction l, hle using Nat.le_induction generalizing later with
  | base => rw [Option.some.inj (hcall.symm.trans hlater)]
  | succ l hle ih =>
      have hl : l < calls.length := by
        have := (List.getElem?_eq_some_iff.mp hlater).1
        omega
      have hbefore := List.getElem?_eq_getElem hl
      have hstem := ((goes_on_iff hlater).mp (hgoes (l + 1) (by omega) le_rfl)).2
      rw [← hstem _ hbefore]
      exact ih hbefore fun i hlow hhigh => hgoes i hlow (Nat.le_succ_of_le hhigh)

/-- **Rounds are replayed**: whatever the calls, each of them has one last start at or before it, and
gives the candidate of its stem at the place of the call behind this start, if there are as many.
Of the states it matters which are `0`, and nothing else. A round that has given nothing once gives
nothing until the next one starts. -/
theorem rounds_replayed (m : Menu) (calls : List Call) :
    (replies m calls).length = calls.length ∧
    (∀ k call, calls[k]? = some call → ∃ start, LastStart calls k start ∧
      (∀ other, LastStart calls k other → other = start) ∧
        (replies m calls)[k]? = some ((candidates m call.stem)[k - start]?)) ∧
    (∀ others, List.Forall₂ Alike calls others → replies m others = replies m calls) ∧
    ∀ k l, k ≤ l → l < calls.length → (replies m calls)[k]? = some none →
      (∀ i, k < i → i ≤ l → ¬ StartsRound calls i) → (replies m calls)[l]? = some none := by
  refine ⟨Machine.length_answers .., fun k call hcall => ?_,
    fun others halike => (answers_congr {} halike).symm, fun k l hle hl hnone hgoes => ?_⟩
  · obtain ⟨start, hstart⟩ := exists_lastStart hcall
    exact ⟨start, hstart, fun other => hstart.unique, replies_getElem? hcall hstart⟩
  · have hcall := List.getElem?_eq_getElem (Nat.lt_of_le_of_lt hle hl)
    have hlater := List.getElem?_eq_getElem hl
    obtain ⟨start, hstart⟩ := exists_lastStart hcall
    have hstart' : LastStart calls l start := by
      refine ⟨hstart.le.trans hle, hstart.starts, fun i hlow hhigh => ?_⟩
      rcases Nat.lt_or_ge k i with hbehind | hbefore
      · exact hgoes i hbehind hhigh
      · exact hstart.goes_on i hlow hbefore
    rw [replies_getElem? hcall hstart, Option.some.injEq, List.getElem?_eq_none_iff] at hnone
    rw [replies_getElem? hlater hstart', ← stem_eq_of_goes_on hle hcall hlater hgoes,
      Option.some.injEq, List.getElem?_eq_none_iff]
    omega

/-- A stem that changes within a round, a round that goes on behind its end, and a new start. -/
example :
    replies ⟨[⟨1, "link", ""⟩, ⟨2, "net", ""⟩]⟩
        [⟨"l", 0⟩, ⟨"n", 1⟩, ⟨"n", 7⟩, ⟨"n", 7⟩, ⟨"n", 0⟩]
      = [some "link", some "net", none, none, some "net"] := by
  decide

end DaemonConsole.Completion.Rounds
