/-
Rounds that a line editor drives.

A line editor asks for one candidate at a time. Its calls go to a cursor: that of the round in
progress, or a new one. A call offers the first candidate ahead of its cursor and leaves the others
ahead, so the calls of one round give the candidates one after another, and nothing from then on.

* `Rounds.next_fst`, `Rounds.cursorFor_next`: what a call offers, and the cursor that the next call of
  the round goes to;
* `Rounds.answers_eq`: the calls that go on with a round;
* `Rounds.answers_range`: calls with the states `0`, `1`, … give the candidates of the stem in order;
* `Rounds.drain_eq_candidates`: these are gathered, and the bound on the number of calls is not
  reached.
-/
import DaemonConsole.Proofs.Machine
import DaemonConsole.Proofs.Menu.Completion

namespace DaemonConsole.Completion

/-- A step keeps the stem. -/
lemma Cursor.next_stem (c : Cursor) (m : Menu) : (c.next m).2.stem = c.stem := by
  rw [next]
  split
  · rfl
  · split <;> rfl

/-- A menu gives no more candidates than it has commands, but for the exit word. -/
lemma length_candidates_le (m : Menu) (stem : String) :
    (candidates m stem).length ≤ m.size + 1 := by
  have hnames : (m.names.filter (Text.startsWith · stem)).length ≤ m.size := by
    refine (List.length_filter_le _ _).trans ?_
    rw [Menu.names, List.length_map, Menu.size]
  rw [candidates_eq, List.length_append]
  split
  · exact Nat.add_le_add hnames (Nat.le_refl 1)
  · exact hnames.trans (Nat.le_succ m.size)

namespace Rounds

variable {m : Menu} {stem : String}

/-! ### One call -/

/-- A call goes to a cursor for its stem. -/
lemma cursorFor_stem (r : Rounds) (stem : String) (state : Nat) :
    (r.cursorFor stem state).stem = stem := by
  rw [cursorFor]
  split
  · rfl
  · split
    · rfl
    · next hgoes => exact not_not.mp (not_or.mp hgoes).2

/-- The state `0` starts a round. -/
lemma cursorFor_zero (r : Rounds) (stem : String) : r.cursorFor stem 0 = .ofStem stem := by
  rw [cursorFor]
  split
  · rfl
  · exact if_pos (.inl rfl)

/-- A call offers the first candidate ahead of its cursor. -/
lemma next_fst (r : Rounds) (m : Menu) (stem : String) (state : Nat) :
    (r.next m stem state).1 = ((r.cursorFor stem state).ahead m).head? :=
  Cursor.next_fst _ m

/-- The next call for the stem goes on behind it, unless its state is `0`. -/
lemma cursorFor_next (r : Rounds) (m : Menu) (stem : String) (state : Nat) {state' : Nat}
    (hstate : state' ≠ 0) :
    (r.next m stem state).2.cursorFor stem state' = ((r.cursorFor stem state).next m).2 := by
  have hstem : ((r.cursorFor stem state).next m).2.stem = stem := by
    rw [Cursor.next_stem, cursorFor_stem]
  exact if_neg (not_or.mpr ⟨hstate, not_not.mpr hstem⟩)

/-- Any other state goes on with the round as the state `1` does. -/
lemma cursorFor_of_ne_zero (r : Rounds) (stem : String) {state : Nat} (hstate : state ≠ 0) :
    r.cursorFor stem state = r.cursorFor stem 1 := by
  simp only [cursorFor, hstate, Nat.one_ne_zero, false_or]

/-! ### The calls of a round -/

/-- Calls that go on with a round give the candidates ahead of its cursor, one for each call as long
as there are any. -/
lemma answers_eq {r : Rounds} {c : Cursor} (hcursor : ∀ state ≠ 0, r.cursorFor stem state = c)
    {states : List Nat} (hstates : ∀ state ∈ states, state ≠ 0) :
    Machine.answers (fun r state => r.next m stem state) r states
      = (List.range states.length).map ((c.ahead m)[·]?) := by
  have hstep : ∀ (r : Rounds), ∀ state ∈ states,
      (r.next m stem state).1 = ((r.cursorFor stem 1).ahead m).head? ∧
        ((r.next m stem state).2.cursorFor stem 1).ahead m
          = ((r.cursorFor stem 1).ahead m).tail := by
    intro r state hmem
    rw [next_fst, cursorFor_next r m stem state Nat.one_ne_zero, Cursor.ahead_next,
      cursorFor_of_ne_zero r stem (hstates state hmem)]
    exact ⟨rfl, rfl⟩
  rw [Machine.answers_eq_ahead hstep r, hcursor 1 Nat.one_ne_zero]

/-- Calls with the states `0`, `1`, … give the candidates of the stem in order, and nothing behind the
last one. -/
lemma answers_range (r : Rounds) (m : Menu) (stem : String) (calls : Nat) :
    Machine.answers (fun r state => r.next m stem state) r (List.range calls)
      = (List.range calls).map ((candidates m stem)[·]?) := by
  cases calls with
  | zero => rfl
  | succ calls =>
      have hnext : ∀ state ≠ 0,
          (r.next m stem 0).2.cursorFor stem state = ((Cursor.ofStem stem).next m).2 := by
        intro state hstate
        rw [cursorFor_next r m stem 0 hstate, cursorFor_zero]
      have hstates : ∀ state ∈ (List.range calls).map Nat.succ, state ≠ 0 := by simp
      rw [List.range_succ_eq_map, Machine.answers_cons, answers_eq hnext hstates,
        ← List.range_succ_eq_map, Machine.map_range_succ, next_fst, cursorFor_zero, Cursor.ahead_next,
        candidates, Cursor.remaining_eq_ahead, List.length_map, List.length_range]

/-- Calls up to the first that gives nothing gather the candidates ahead of the cursor of the first
one, unless there are too many. -/
lemma drain_eq_take (fuel : Nat) (r : Rounds) (state : Nat) :
    drain m stem fuel r state = ((r.cursorFor stem state).ahead m).take fuel := by
  induction fuel generalizing r state with
  | zero => rfl
  | succ fuel ih =>
      have hhead := next_fst r m stem state
      have htail : ((r.next m stem state).2.cursorFor stem (state + 1)).ahead m
          = ((r.cursorFor stem state).ahead m).tail := by
        rw [cursorFor_next r m stem state (Nat.succ_ne_zero state), Cursor.ahead_next]
      rw [drain]
      split
      · next r' hnext =>
          rw [hnext] at hhead
          rw [List.head?_eq_none_iff.mp hhead.symm, List.take_nil]
      · next name r' hnext =>
          rw [hnext] at hhead htail
          rw [ih, htail, ← List.cons_head?_tail hhead.symm, List.take_succ_cons, List.tail_cons]

/-- All candidates of a stem are gathered. -/
lemma drain_eq_candidates (m : Menu) (stem : String) :
    drain m stem (m.size + 2) {} 0 = candidates m stem := by
  rw [drain_eq_take, cursorFor_zero, ← Cursor.remaining_eq_ahead]
  exact List.take_of_length_le ((length_candidates_le m stem).trans (Nat.le_succ _))

end Rounds

end DaemonConsole.Completion
