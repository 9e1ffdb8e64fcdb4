/-
What a round of completion offers.

A cursor has candidates ahead of it: the names of the menu from its place on that start with the stem,
and then the exit word if it starts with the stem and is not offered by then. A step offers the first
of them and leaves the others ahead.

* `Cursor.ahead`: the candidates ahead of a cursor in a menu;
* `Cursor.next_fst`, `Cursor.ahead_next`: what a step offers and what it leaves;
* `candidates_eq`: a round offers the matching names in menu order, and the exit word once;
* `mem_candidates_iff`, `nodup_candidates`: what is offered is what the menu finds, or the exit word,
  and nothing is offered twice if no name stands twice in the menu.
-/
import DaemonConsole.Menu.Completion
import DaemonConsole.Proofs.Menu.Lookup
import DaemonConsole.Proofs.Text.Split
import Mathlib.Data.List.Nodup
import Mathlib.Tactic.Tauto

namespace DaemonConsole.Completion

namespace Cursor

/-! ### The search for the next name -/

section Scan

variable {stem : String} {cs : List Command}

/-- A search without success passes over no name that starts with the stem. -/
lemma scan_eq_none (h : scan stem cs = none) :
    (cs.map (·.name)).filter (Text.startsWith · stem) = [] := by
  induction cs with
  | nil => rfl
  | cons c rest ih =>
      rw [scan] at h
      cases hstart : Text.startsWith c.name stem with
      | true => rw [hstart, if_pos rfl] at h; cases h
      | false =>
          rw [hstart, if_neg Bool.false_ne_true, Option.map_eq_none_iff] at h
          rw [List.map_cons, List.filter_cons_of_neg (by simp [hstart]), ih h]

/-- A search that succeeds finds the first name that starts with the stem. -/
lemma scan_eq_some {name : String} {taken : Nat} (h : scan stem cs = some (name, taken)) :
    (cs.map (·.name)).filter (Text.startsWith · stem)
      = name :: ((cs.drop taken).map (·.name)).filter (Text.startsWith · stem) := by
  induction cs generalizing name taken with
  | nil => cases h
  | cons c rest ih =>
      rw [scan] at h
      cases hstart : Text.startsWith c.name stem with
      | true =>
          rw [hstart, if_pos rfl] at h
          cases h
          exact List.filter_cons_of_pos hstart
      | false =>
          rw [hstart, if_neg Bool.false_ne_true, Option.map_eq_some_iff] at h
          obtain ⟨⟨found, steps⟩, hscan, heq⟩ := h
          cases heq
          rw [List.map_cons, List.filter_cons_of_neg (by simp [hstart]), ih hscan]
          rfl

end Scan

/-! ### The candidates ahead -/

/-- The names of a menu ahead of a cursor that start with its stem. -/
def namesAhead (c : Cursor) (m : Menu) : List String :=
  ((m.commands.drop c.position).map (·.name)).filter (Text.startsWith · c.stem)

/-- The candidates ahead of a cursor: these names, and the exit word if it starts with the stem and
is neither among them nor offered already. -/
def ahead (c : Cursor) (m : Menu) : List String :=
  c.namesAhead m ++
    if c.exitOffered = false ∧ Text.startsWith exitWord c.stem = true ∧ exitWord ∉ c.namesAhead m
    then [exitWord] else []

variable (c : Cursor) (m : Menu)

/-- A step offers the first candidate ahead, if there is one, and leaves the others ahead. -/
lemma next_spec : (c.next m).1 = (c.ahead m).head? ∧ (c.next m).2.ahead m = (c.ahead m).tail := by
  rw [next]
  cases hscan : scan c.stem (m.commands.drop c.position) with
  | some found =>
      obtain ⟨name, taken⟩ := found
      have hnames : c.namesAhead m = name :: namesAhead
          ⟨c.stem, c.position + taken, c.exitOffered || name == exitWord⟩ m := by
        rw [namesAhead, scan_eq_some hscan, List.drop_drop, namesAhead]
      refine ⟨by rw [ahead, hnames]; rfl, ?_⟩
      rw [ahead, ahead, hnames, List.cons_append, List.tail_cons]
      -- the exit word is still to come behind the name if it is not the name itself
      congr 2
      simp only [Bool.or_eq_false_iff, beq_eq_false_iff_ne, List.mem_cons, not_or, eq_iff_iff]
      tauto
  | none =>
      have hnames : c.namesAhead m = [] := scan_eq_none hscan
      have hdone : ∀ offered, namesAhead ⟨c.stem, max c.position m.size, offered⟩ m = [] := by
        intro offered
        have hdrop : m.commands.drop (max c.position m.size) = [] :=
          List.drop_eq_nil_of_le (Nat.le_max_right ..)
        rw [namesAhead, hdrop]
        rfl
      cases hoffered : c.exitOffered with
      | true => simp [ahead, hnames, hdone, hoffered]
      | false =>
          cases hstart : Text.startsWith exitWord c.stem with
          | true => simp [ahead, hnames, hdone, hoffered, hstart]
          | false => simp [ahead, hnames, hdone, hoffered, hstart]

/-- A step offers the first candidate ahead. -/
lemma next_fst : (c.next m).1 = (c.ahead m).head? :=
  (c.next_spec m).1

/-- A step leaves the other candidates ahead. -/
lemma ahead_next : (c.next m).2.ahead m = (c.ahead m).tail :=
  (c.next_spec m).2

/-- The rest of a round offers the candidates ahead, one after another. -/
lemma remaining_eq_ahead : c.remaining m = c.ahead m := by
  induction hahead : c.ahead m generalizing c with
  | nil =>
      have hnone : (c.next m).1 = none := by rw [next_fst, hahead]; rfl
      rw [remaining]
      split
      · rfl
      · next name hname => rw [hnone] at hname; cases hname
  | cons name rest ih =>
      have hsome : (c.next m).1 = some name := by rw [next_fst, hahead]; rfl
      have hrest : (c.next m).2.ahead m = rest := by rw [ahead_next, hahead]; rfl
      rw [remaining]
      split
      · next hnone => rw [hsome] at hnone; cases hnone
      · next found hfound =>
          obtain rfl : name = found := Option.some.inj (hsome.symm.trans hfound)
          rw [ih _ hrest]

end Cursor

/-! ### Whole rounds -/

variable {m : Menu} {stem name : String}

/-- A round offers the names that start with the stem in menu order, and then the exit word if it
starts with the stem and no command has its name. -/
lemma candidates_eq (m : Menu) (stem : String) :
    candidates m stem = m.names.filter (Text.startsWith · stem) ++
      if Text.startsWith exitWord stem = true ∧ exitWord ∉ m.names then [exitWord] else [] := by
  rw [candidates, Cursor.remaining_eq_ahead, Cursor.ahead]
  have hnames : (Cursor.ofStem stem).namesAhead m = m.names.filter (Text.startsWith · stem) := rfl
  rw [hnames]
  congr 2
  simp only [Cursor.ofStem, List.mem_filter, eq_iff_iff, true_and]
  tauto

/-- What is offered starts with the stem and is a name of the menu or the exit word. -/
lemma mem_candidates_iff : name ∈ candidates m stem ↔
    stem.toList <+: name.toList ∧ (name = exitWord ∨ ∃ c, m.find? name = some c) := by
  rw [candidates_eq, List.mem_append, List.mem_filter, Text.startsWith_iff, Menu.exists_find?_iff]
  constructor
  · rintro (⟨hname, hstem⟩ | hexit)
    · exact ⟨hstem, .inr hname⟩
    · split at hexit
      · next hoffer =>
          rw [List.mem_singleton.mp hexit]
          exact ⟨Text.startsWith_iff.mp hoffer.1, .inl rfl⟩
      · cases hexit
  · rintro ⟨hstem, rfl | hname⟩
    · by_cases hlisted : exitWord ∈ m.names
      · exact .inl ⟨hlisted, hstem⟩
      · rw [if_pos ⟨Text.startsWith_iff.mpr hstem, hlisted⟩]
        exact .inr List.mem_cons_self
    · exact .inl ⟨hname, hstem⟩

/-- What is offered over a menu whose commands are valid can be typed as one word. -/
lemma word_of_mem_candidates (hmenu : ∀ c ∈ m.commands, c.Valid) (h : name ∈ candidates m stem) :
    name ≠ "" ∧ Text.hasBlank name = false := by
  rcases (mem_candidates_iff.mp h).2 with rfl | ⟨c, hfind⟩
  · exact ⟨by decide, by decide⟩
  · obtain ⟨hne, -, hblank, -⟩ := hmenu c (Menu.mem_of_find? hfind)
    rw [← Menu.name_of_find? hfind]
    exact ⟨hne, hblank⟩

/-- Nothing is offered twice over a menu whose names are distinct. -/
lemma nodup_candidates (h : m.names.Nodup) (stem : String) : (candidates m stem).Nodup := by
  rw [candidates_eq]
  refine List.Nodup.append (h.filter _) ?_ ?_
  · split
    · exact List.nodup_singleton exitWord
    · exact List.nodup_nil
  · intro name hname hexit
    split at hexit
    · next hoffer =>
        rw [List.mem_singleton.mp hexit] at hname
        exact hoffer.2 (List.mem_of_mem_filter hname)
    · cases hexit

end DaemonConsole.Completion
