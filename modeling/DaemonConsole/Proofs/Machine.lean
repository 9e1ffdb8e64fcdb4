/-
Machines: states that take inputs one after another and answer each.

A machine is given by its step, which takes a state and an input to an answer and the next state.

* `Machine.after`, `Machine.answers`: the state that a list of inputs leaves, and the answers to them;
* `Machine.answers_eq_map`: an answer depends on its input and on the state that the inputs before it
  leave;
* `Machine.answers_eq_of_simulation`: machines that agree step by step give the same answers;
* `Machine.answers_eq_ahead`: machines that give out a list from its head on;
* `Machine.Atomic`: a failure that leaves the state as it was;
* `Machine.Atomic.snd`, `Machine.after_of_atomic`: where every failure is one, what every success keeps
  a step and a run keep;
* `Machine.successes`, `Machine.successes_induction`: the inputs that succeed with their answers, and
  what ties them to the state;
* `Machine.erase_idle`: a run does without the inputs that leave its state as it is.
-/
import DaemonConsole.Proofs.Past

namespace DaemonConsole.Machine

variable {σ τ ι ο : Type}

section Runs

variable (step : σ → ι → ο × σ)

/-- The state that a list of inputs leaves. -/
def after (s : σ) : List ι → σ
  | [] => s
  | x :: xs => after (step s x).2 xs

/-- The answers to a list of inputs, one for each. -/
def answers (s : σ) : List ι → List ο
  | [] => []
  | x :: xs => (step s x).1 :: answers (step s x).2 xs

@[simp] lemma after_nil (s : σ) : after step s [] = s := rfl

@[simp] lemma after_cons (s : σ) (x : ι) (xs : List ι) :
    after step s (x :: xs) = after step (step s x).2 xs := rfl

@[simp] lemma answers_nil (s : σ) : answers step s [] = [] := rfl

@[simp] lemma answers_cons (s : σ) (x : ι) (xs : List ι) :
    answers step s (x :: xs) = (step s x).1 :: answers step (step s x).2 xs := rfl

/-- A run goes on from where its first part ends. -/
lemma after_append (s : σ) (xs ys : List ι) :
    after step s (xs ++ ys) = after step (after step s xs) ys := by
  induction xs generalizing s with
  | nil => rfl
  | cons x xs ih => exact ih _

/-- The answers of a run are those of its two parts. -/
lemma answers_append (s : σ) (xs ys : List ι) :
    answers step s (xs ++ ys) = answers step s xs ++ answers step (after step s xs) ys := by
  induction xs generalizing s with
  | nil => rfl
  | cons x xs ih => exact congrArg ((step s x).1 :: ·) (ih _)

/-- The answers to the first inputs do not depend on those behind them. -/
lemma answers_take (s : σ) (xs : List ι) (k : Nat) :
    answers step s (xs.take k) = (answers step s xs).take k := by
  induction xs generalizing s k with
  | nil => simp
  | cons x xs ih =>
      cases k with
      | zero => rfl
      | succ k => exact congrArg ((step s x).1 :: ·) (ih _ k)

/-- The state behind one more input. -/
lemma after_concat (s : σ) (xs : List ι) (x : ι) :
    after step s (xs ++ [x]) = (step (after step s xs) x).2 := by
  rw [after_append]
  rfl

/-- There is one answer to each input. -/
lemma length_answers (s : σ) (xs : List ι) : (answers step s xs).length = xs.length := by
  induction xs generalizing s with
  | nil => rfl
  | cons x xs ih => exact congrArg (· + 1) (ih _)

/-- An answer depends on its input and on the state that the inputs before it leave. -/
lemma answers_eq_map (s : σ) (xs : List ι) :
    answers step s xs = (withPast xs).map fun p => (step (after step s p.1) p.2).1 := by
  induction xs generalizing s with
  | nil => rfl
  | cons x xs ih =>
      rw [answers_cons, ih, withPast_cons, List.map_cons, List.map_map]
      rfl

end Runs

/-- Machines that agree step by step give the same answers. -/
lemma answers_eq_of_simulation {step : σ → ι → ο × σ} {step' : τ → ι → ο × τ} {R : σ → τ → Prop}
    (hstep : ∀ s t x, R s t → (step s x).1 = (step' t x).1 ∧ R (step s x).2 (step' t x).2)
    {s : σ} {t : τ} (h : R s t) (xs : List ι) : answers step s xs = answers step' t xs := by
  induction xs generalizing s t with
  | nil => rfl
  | cons x xs ih =>
      obtain ⟨hanswer, hnext⟩ := hstep s t x h
      rw [answers_cons, answers_cons, hanswer, ih hnext]

/-! ### Steps along a list -/

/-- The places of a list from the first on: its head, and those of its tail. -/
lemma map_range_succ {α : Type} (xs : List α) (n : Nat) :
    (List.range (n + 1)).map (xs[·]?) = xs.head? :: (List.range n).map (xs.tail[·]?) := by
  rw [List.range_succ_eq_map, List.map_cons, List.map_map, List.head?_eq_getElem?]
  refine congrArg (xs[0]? :: ·) (List.map_congr_left fun i _ => ?_)
  exact List.getElem?_tail.symm

/-- Where each input gets the head of the list ahead and leaves its tail, the inputs get the list one
after another, and nothing behind its end. -/
lemma answers_eq_ahead {α : Type} {step : σ → ι → Option α × σ} {ahead : σ → List α} {xs : List ι}
    (hstep : ∀ s, ∀ x ∈ xs, (step s x).1 = (ahead s).head? ∧ ahead (step s x).2 = (ahead s).tail)
    (s : σ) : answers step s xs = (List.range xs.length).map ((ahead s)[·]?) := by
  induction xs generalizing s with
  | nil => rfl
  | cons x xs ih =>
      obtain ⟨hhead, htail⟩ := hstep s x List.mem_cons_self
      rw [answers_cons, ih fun s y hy => hstep s y (List.mem_cons_of_mem x hy), hhead, htail,
        List.length_cons, map_range_succ]

/-! ### Steps that may fail -/

section Failures

variable {ε : Type} {run : σ → ι → Except ε ο × σ} {s : σ}

/-- A result that leaves the state as it was, if it is a failure. -/
def Atomic (s : σ) (result : Except ε ο × σ) : Prop :=
  ∀ fault, result.1 = .error fault → result.2 = s

/-- A failure that gives the state back leaves it. -/
lemma atomic_error (fault : ε) : Atomic s ((.error fault, s) : Except ε ο × σ) :=
  fun _ _ => rfl

/-- A success is no failure, whatever state it leaves. -/
lemma atomic_ok (answer : ο) (next : σ) : Atomic s ((.ok answer, next) : Except ε ο × σ) :=
  fun _ h => by cases h

/-- What holds of the state, and of whatever a success makes of it, holds behind the result. -/
lemma Atomic.snd {result : Except ε ο × σ} {P : σ → Prop} (h : Atomic s result) (hs : P s)
    (hok : ∀ answer next, result = (.ok answer, next) → P next) : P result.2 := by
  obtain ⟨answer, next⟩ := result
  cases answer with
  | error fault => exact (h fault rfl).symm ▸ hs
  | ok answer => exact hok answer next rfl

/-- What every success keeps, a run keeps. -/
lemma after_of_atomic (hatomic : ∀ s x, Atomic s (run s x)) {I : σ → Prop}
    (hrun : ∀ s x answer next, run s x = (.ok answer, next) → I s → I next)
    (h : I s) (xs : List ι) : I (after run s xs) := by
  induction xs generalizing s with
  | nil => exact h
  | cons x xs ih =>
      exact ih ((hatomic s x).snd h fun answer next hstep => hrun s x answer next hstep h)

/-- The inputs of a run that succeed, each with its answer. -/
def successes (run : σ → ι → Except ε ο × σ) (s : σ) (xs : List ι) : List (ι × ο) :=
  (xs.zip (answers run s xs)).filterMap fun e => e.2.toOption.map fun answer => (e.1, answer)

/-- The inputs that succeed are inputs of the run. -/
lemma mem_of_mem_successes {xs : List ι} {e : ι × ο} (h : e ∈ successes run s xs) : e.1 ∈ xs := by
  obtain ⟨pair, hpair, hsuccess⟩ := List.mem_filterMap.mp h
  obtain ⟨answer, -, rfl⟩ := Option.map_eq_some_iff.mp hsuccess
  exact (List.of_mem_zip hpair).1

/-- One more input is added if it succeeds. -/
lemma successes_concat (run : σ → ι → Except ε ο × σ) (s : σ) (xs : List ι) (x : ι) :
    successes run s (xs ++ [x])
      = successes run s xs
        ++ ((run (after run s xs) x).1.toOption.map fun answer => (x, answer)).toList := by
  rw [successes, answers_append, List.zip_append (length_answers _ s xs).symm, List.filterMap_append]
  refine congrArg (successes run s xs ++ ·) ?_
  rw [answers_cons, List.zip_cons_cons, List.filterMap_cons]
  cases (run (after run s xs) x).1.toOption with
  | none => rfl
  | some answer => rfl

/-- What ties the successes before an input to the state, and goes on with every success, ties those
of a run to the state that it leaves. -/
lemma successes_induction (hatomic : ∀ s x, Atomic s (run s x)) {R : List (ι × ο) → σ → Prop}
    (hrun : ∀ past s x answer next, run s x = (.ok answer, next) → R past s →
      R (past ++ [(x, answer)]) next)
    (h : R [] s) (xs : List ι) : R (successes run s xs) (after run s xs) := by
  induction xs using List.reverseRecOn with
  | nil => exact h
  | append_singleton xs x ih =>
      rw [successes_concat, after_concat]
      have hkept := hatomic (after run s xs) x
      rcases hstep : run (after run s xs) x with ⟨fault | answer, next⟩
      · rw [hstep] at hkept
        obtain rfl : next = after run s xs := hkept fault rfl
        exact (List.append_nil (successes run s xs)).symm ▸ ih
      · exact hrun _ _ x answer next hstep ih

end Failures

/-! ### Idle inputs -/

section Idle

variable (step : σ → ι → ο × σ) (idle : ι → ο → Bool)

/-- The inputs of a run that are not idle, with their answers. Whether an input is idle may depend on
its answer. -/
def kept (s : σ) (xs : List ι) : List (ι × ο) :=
  (xs.zip (answers step s xs)).filter fun e => !idle e.1 e.2

variable {step idle}

lemma kept_cons_of_idle {s : σ} {x : ι} (h : idle x (step s x).1 = true) (xs : List ι) :
    kept step idle s (x :: xs) = kept step idle (step s x).2 xs := by
  rw [kept, answers_cons, List.zip_cons_cons, List.filter_cons_of_neg (by simp [h])]
  rfl

lemma kept_cons {s : σ} {x : ι} (h : idle x (step s x).1 = false) (xs : List ι) :
    kept step idle s (x :: xs) = (x, (step s x).1) :: kept step idle (step s x).2 xs := by
  rw [kept, answers_cons, List.zip_cons_cons, List.filter_cons_of_pos (by simp [h])]
  rfl

/-- Where idle inputs leave the state as it is, a run does without them: the other inputs are
answered as before and leave the same state. Idle inputs need to do so under an invariant only. -/
lemma erase_idle {I : σ → Prop} (hstep : ∀ s x, I s → I (step s x).2)
    (hidle : ∀ s x, I s → idle x (step s x).1 = true → (step s x).2 = s)
    {s : σ} (h : I s) (xs : List ι) :
    answers step s ((kept step idle s xs).map (·.1)) = (kept step idle s xs).map (·.2) ∧
      after step s ((kept step idle s xs).map (·.1)) = after step s xs := by
  induction xs generalizing s with
  | nil => exact ⟨rfl, rfl⟩
  | cons x xs ih =>
      obtain ⟨hanswers, hafter⟩ := ih (hstep s x h)
      cases hx : idle x (step s x).1 with
      | true =>
          -- the run behind an idle input starts from the state before it
          rw [kept_cons_of_idle hx, after_cons, hidle s x h hx] at *
          exact ⟨hanswers, hafter⟩
      | false =>
          rw [kept_cons hx, List.map_cons, List.map_cons, answers_cons, after_cons, after_cons]
          exact ⟨congrArg ((step s x).1 :: ·) hanswers, hafter⟩

end Idle

end DaemonConsole.Machine
