/-
Lists cut behind every end.

A piece goes up to an end and holds it; behind the last end there may be one more piece, which is
not empty. The pieces are known from the list, and what stands inside one piece has no part in the
others.

* `Text.Cut`: the pieces of a list; `Cut.unique`: there is one way to cut;
* `Cut.append`: two lists are cut apart where the first one ends in an end;
* `Cut.around`: the piece that holds a run without ends, and the pieces around it.
-/
import Mathlib.Data.List.Basic
import Mathlib.Tactic.Lemma

namespace DaemonConsole.Text

variable {α : Type} {e : α}

/-- The pieces of a list that is cut behind every `e`, without an empty piece at the end. -/
inductive Cut (e : α) : List α → List (List α) → Prop
  | nil : Cut e [] []
  | last {x : List α} : x ≠ [] → e ∉ x → Cut e x [x]
  | cons {x rest : List α} {pieces : List (List α)} :
      e ∉ x → Cut e rest pieces → Cut e (x ++ e :: rest) ((x ++ [e]) :: pieces)

namespace Cut

variable {text text' : List α} {pieces pieces' : List (List α)}

/-- The first end of a list stands at one place. -/
lemma first_end {x x' rest rest' : List α} (hx : e ∉ x) (hx' : e ∉ x')
    (h : x ++ e :: rest = x' ++ e :: rest') : x = x' ∧ rest = rest' := by
  have hnone {gap rest rest' : List α} (hgap : e ∉ gap) (h : e :: rest = gap ++ e :: rest') :
      gap = [] ∧ rest = rest' := by
    cases gap with
    | nil => exact ⟨rfl, (List.cons.inj h).2⟩
    | cons b gap => exact absurd ((List.cons.inj h).1 ▸ List.mem_cons_self) hgap
  rcases List.append_eq_append_iff.mp h with ⟨gap, rfl, hgap⟩ | ⟨gap, rfl, hgap⟩
  · obtain ⟨rfl, hrest⟩ := hnone (fun hmem => hx' (List.mem_append_right x hmem)) hgap
    exact ⟨(List.append_nil x).symm, hrest⟩
  · obtain ⟨rfl, hrest⟩ := hnone (fun hmem => hx (List.mem_append_right x' hmem)) hgap
    exact ⟨List.append_nil x', hrest.symm⟩

/-- There is one way to cut a list. -/
lemma unique (h : Cut e text pieces) (h' : Cut e text pieces') : pieces = pieces' := by
  induction h generalizing pieces' with
  | nil =>
      generalize htext : ([] : List α) = text at h'
      cases h' with
      | nil => rfl
      | last hne _ => exact absurd htext.symm hne
      | cons _ _ => simp at htext
  | @last x hne hx =>
      generalize htext : x = text at h'
      cases h' with
      | nil => exact absurd htext hne
      | last _ _ => rfl
      | cons _ _ => exact absurd (htext ▸ by simp) hx
  | @cons x rest pieces hx _ ih =>
      generalize htext : x ++ e :: rest = text at h'
      cases h' with
      | nil => simp at htext
      | last _ hnone => exact absurd (htext ▸ by simp) hnone
      | @cons x' rest' pieces' hx' hrest' =>
          obtain ⟨rfl, rfl⟩ := first_end hx hx' htext
          rw [ih hrest']

/-- An element in front that is no end belongs to the first piece. -/
lemma push {b : α} {piece : List α} (hb : b ≠ e) (h : Cut e text (piece :: pieces)) :
    Cut e (b :: text) ((b :: piece) :: pieces) := by
  have hmem {x : List α} (hx : e ∉ x) : e ∉ b :: x := List.not_mem_cons_of_ne_of_not_mem hb.symm hx
  cases h with
  | last _ hx => exact .last (by simp) (hmem hx)
  | cons hx hrest => exact .cons (hmem hx) hrest

/-- An end stands at the end of its piece. -/
lemma piece_cases (h : Cut e text pieces) {piece : List α} (hpiece : piece ∈ pieces) :
    ∃ x, e ∉ x ∧ (piece = x ∨ piece = x ++ [e]) := by
  induction h with
  | nil => exact absurd hpiece List.not_mem_nil
  | @last x _ hx => exact ⟨x, hx, .inl (List.mem_singleton.mp hpiece)⟩
  | @cons x rest pieces hx _ ih =>
      rcases List.mem_cons.mp hpiece with rfl | hpiece
      · exact ⟨x, hx, .inr rfl⟩
      · exact ih hpiece

/-- Lists are cut one by one if the first one is empty or ends in an end. -/
lemma append (h : Cut e text pieces) (h' : Cut e text' pieces')
    (hend : ∀ x ∈ text.getLast?, x = e) : Cut e (text ++ text') (pieces ++ pieces') := by
  induction h with
  | nil => exact h'
  | @last x hne hx =>
      have hlast : x.getLast hne = e := hend _ (List.getLast?_eq_some_getLast hne)
      exact absurd (hlast ▸ List.getLast_mem hne) hx
  | @cons x rest pieces hx hrest ih =>
      have hrestEnd : ∀ y ∈ rest.getLast?, y = e := by
        intro y hy
        refine hend y ?_
        have hy : rest.getLast? = some y := hy
        rw [List.getLast?_append, List.getLast?_cons, hy]
        rfl
      rw [List.append_assoc, List.cons_append, List.cons_append]
      exact .cons hx (ih hrestEnd)

/-- What stands in front of a list up to its first end makes one piece with it. -/
lemma prepend (h : Cut e text pieces) :
    ∃ tail after, ∀ x, x ≠ [] → e ∉ x → Cut e (x ++ text) ((x ++ tail) :: after) := by
  cases h with
  | nil =>
      refine ⟨[], [], fun x hne hx => ?_⟩
      rw [List.append_nil]
      exact .last hne hx
  | last _ hy =>
      refine ⟨text, [], fun x hne hx => .last (by simp [hne]) ?_⟩
      exact List.not_mem_append hx hy
  | @cons y rest pieces hy hrest =>
      refine ⟨y ++ [e], pieces, fun x _ hx => ?_⟩
      rw [← List.append_assoc, ← List.append_assoc]
      exact .cons (List.not_mem_append hx hy) hrest

/-- A run without ends stands in one piece, and the ends before it are those of the pieces before.
Everything around it is the same for all runs. -/
lemma around [BEq α] [LawfulBEq α] (hpre : Cut e text pieces) (hpost : Cut e text' pieces') :
    ∃ before head tail after, before.length = text.count e ∧
      ∀ x, x ≠ [] → e ∉ x →
        Cut e (text ++ x ++ text') (before ++ (head ++ x ++ tail) :: after) := by
  obtain ⟨tail, after, hafter⟩ := hpost.prepend
  induction hpre with
  | nil => exact ⟨[], [], tail, after, rfl, hafter⟩
  | @last y _ hy =>
      refine ⟨[], y, tail, after, (List.count_eq_zero.mpr hy).symm, fun x hne hx => ?_⟩
      exact hafter (y ++ x) (by simp [hne]) (List.not_mem_append hy hx)
  | @cons y rest pieces hy _ ih =>
      obtain ⟨before, head, tail, after, hlength, hrest⟩ := ih
      have hcount : (y ++ e :: rest).count e = rest.count e + 1 := by
        rw [List.count_append, List.count_eq_zero.mpr hy, List.count_cons_self, Nat.zero_add]
      refine ⟨(y ++ [e]) :: before, head, tail, after, ?_, fun x hne hx => ?_⟩
      · rw [List.length_cons, hlength, hcount]
      · have hjoin : y ++ e :: rest ++ x ++ text' = y ++ e :: (rest ++ x ++ text') := by simp
        rw [hjoin]
        exact .cons hy (hrest x hne hx)

end Cut

end DaemonConsole.Text
