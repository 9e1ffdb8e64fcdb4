/-
The entries of a list, each with the entries before it.

What a line leads to depends on the lines before it, so a run is described entry by entry with its
past.

* `withPast`: the entries with their past; `withPast_getElem?`: one of them by its place;
* `filterMap_withPast_cons`, `flatMap_withPast_cons`: what is gathered from them, one entry more in
  front;
* `Since`: something that one entry starts, and that no entry behind it stops;
* `Latest`: a value that the last entry about it gives, or that was there before all entries.
-/
import Mathlib.Data.List.Infix
import Mathlib.Tactic.Lemma
import Mathlib.Tactic.Tauto

namespace DaemonConsole

variable {α β : Type}

/-- The entries of a list, each with the entries before it. -/
def withPast (xs : List α) : List (List α × α) :=
  xs.inits.zip xs

@[simp] lemma withPast_nil : withPast ([] : List α) = [] := rfl

/-- Behind a first entry every past starts with it. -/
@[simp] lemma withPast_cons (x : α) (xs : List α) :
    withPast (x :: xs) = ([], x) :: (withPast xs).map fun p => (x :: p.1, p.2) := by
  rw [withPast, withPast, List.inits_cons, List.zip_cons_cons, List.zip_map_left]
  rfl

/-- An entry with its past, by the place of the entry. -/
lemma withPast_getElem? (xs : List α) (k : Nat) :
    (withPast xs)[k]? = xs[k]?.map fun x => (xs.take k, x) := by
  induction xs generalizing k with
  | nil => rfl
  | cons x xs ih =>
      cases k with
      | zero => rfl
      | succ k =>
          rw [withPast_cons, List.getElem?_cons_succ, List.getElem?_map, ih, List.getElem?_cons_succ,
            Option.map_map]
          rfl

/-- What the first entry gives comes first, and the others give theirs with it in their past. -/
lemma filterMap_withPast_cons (f : List α × α → Option β) (x : α) (xs : List α) :
    (withPast (x :: xs)).filterMap f
      = (f ([], x)).toList ++ (withPast xs).filterMap fun p => f (x :: p.1, p.2) := by
  rw [withPast_cons, List.filterMap_cons, List.filterMap_map]
  cases f ([], x) with
  | none => rfl
  | some y => rfl

lemma flatMap_withPast_cons (f : List α × α → List β) (x : α) (xs : List α) :
    (withPast (x :: xs)).flatMap f
      = f ([], x) ++ (withPast xs).flatMap fun p => f (x :: p.1, p.2) := by
  rw [withPast_cons, List.flatMap_cons, List.flatMap_map]

/-! ### What started and has not stopped -/

/-- An entry starts something, by what it is and what comes before it, and no entry behind it stops
it. -/
def Since (starts : List α → α → Prop) (stops : α → Prop) (xs : List α) : Prop :=
  ∃ earlier x later, xs = earlier ++ x :: later ∧ starts earlier x ∧ ∀ y ∈ later, ¬ stops y

variable {starts : List α → α → Prop} {stops : α → Prop}

/-- Nothing has started before the first entry. -/
lemma not_since_nil : ¬ Since starts stops [] := by
  rintro ⟨earlier, x, later, heq, -⟩
  simp at heq

/-- What has started was started by one of the entries. -/
lemma Since.exists_start {xs : List α} (h : Since starts stops xs) :
    ∃ earlier, ∃ x ∈ xs, starts earlier x := by
  obtain ⟨earlier, x, later, rfl, hstarts, -⟩ := h
  exact ⟨earlier, x, by simp, hstarts⟩

/-- One more entry starts it, or it has started before and the entry does not stop it. -/
lemma since_concat {xs : List α} {x : α} :
    Since starts stops (xs ++ [x]) ↔ starts xs x ∨ (Since starts stops xs ∧ ¬ stops x) := by
  constructor
  · rintro ⟨earlier, y, later, heq, hstarts, hlater⟩
    rcases List.eq_nil_or_concat' later with rfl | ⟨later', last, rfl⟩
    · obtain ⟨hxs, hlast⟩ := List.append_inj' heq rfl
      cases hlast
      rw [hxs]
      exact .inl hstarts
    · rw [← List.cons_append, ← List.append_assoc] at heq
      obtain ⟨hxs, hlast⟩ := List.append_inj' heq rfl
      cases hlast
      refine .inr ⟨⟨earlier, y, later', hxs, hstarts, fun z hz => hlater z ?_⟩, hlater x (by simp)⟩
      exact List.mem_append_left _ hz
  · rintro (hstarts | ⟨⟨earlier, y, later, rfl, hstarts, hlater⟩, hx⟩)
    · exact ⟨xs, x, [], rfl, hstarts, by simp⟩
    · refine ⟨earlier, y, later ++ [x], by simp, hstarts, fun z hz => ?_⟩
      rcases List.mem_append.mp hz with hz | hz
      · exact hlater z hz
      · rw [List.mem_singleton.mp hz]
        exact hx

/-! ### The latest value -/

/-- A value is the latest if the last entry that gives one gives it, or if it is the first one and no
entry gives one. -/
def Latest (gives : α → β → Prop) (first : β) (xs : List α) (b : β) : Prop :=
  Since (fun _ x => gives x b) (fun x => ∃ b', gives x b') xs ∨
    (∀ x ∈ xs, ¬ ∃ b', gives x b') ∧ b = first

variable {gives : α → β → Prop} {first b : β}

/-- Before all entries the first value is the latest. -/
lemma latest_nil : Latest gives first [] first :=
  .inr ⟨by simp, rfl⟩

/-- One more entry gives the value, or it was the latest and the entry gives none. -/
lemma latest_concat {xs : List α} {x : α} : Latest gives first (xs ++ [x]) b ↔
    gives x b ∨ (Latest gives first xs b ∧ ¬ ∃ b', gives x b') := by
  have hnone : (∀ y ∈ xs ++ [x], ¬ ∃ b', gives y b') ↔
      (∀ y ∈ xs, ¬ ∃ b', gives y b') ∧ ¬ ∃ b', gives x b' := by
    rw [List.forall_mem_append, List.forall_mem_singleton]
  rw [Latest, Latest, since_concat, hnone]
  tauto

end DaemonConsole
