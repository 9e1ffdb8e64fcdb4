/-
Completion of command names.

A round completes one stem over a menu: it offers the names that start with the stem in menu order,
and then the exit word, once, if it starts with the stem and the round has not offered it yet.

* `Cursor.next`: one candidate at a time; a cursor keeps its place, not the menu, so every call may
  look at another menu;
* `Cursor.remaining`: the rest of a round in one menu;
* `Rounds.next`: the protocol of line editors, where the state `0` or another stem starts a new
  round.
-/
import DaemonConsole.Menu.Basic

namespace DaemonConsole.Completion

/-- A place inside one round. -/
structure Cursor where
  stem : String
  position : Nat
  exitOffered : Bool
  deriving DecidableEq, Repr

namespace Cursor

/-- The start of a round for a stem. -/
def ofStem (stem : String) : Cursor :=
  ⟨stem, 0, false⟩

/-- The first command that starts with the stem, and how many commands it took to find it. -/
def scan (stem : String) : List Command → Option (String × Nat)
  | [] => none
  | c :: rest =>
    if Text.startsWith c.name stem then some (c.name, 1)
    else (scan stem rest).map fun (name, taken) => (name, taken + 1)

/-- The next candidate of the round in a menu, and the place after it. -/
def next (c : Cursor) (m : Menu) : Option String × Cursor :=
  match scan c.stem (m.commands.drop c.position) with
  | some (name, taken) =>
    (some name, ⟨c.stem, c.position + taken, c.exitOffered || name == exitWord⟩)
  | none =>
    let place : Cursor := ⟨c.stem, max c.position m.size, c.exitOffered⟩
    if !c.exitOffered && Text.startsWith exitWord c.stem then
      (some exitWord, { place with exitOffered := true })
    else (none, place)

/-- The number of steps a round can still take in a menu. -/
def room (c : Cursor) (m : Menu) : Nat :=
  (m.size - c.position) + if c.exitOffered then 0 else 1

/-- A found command lies within the list. -/
theorem scan_taken {stem : String} {cs : List Command} {name : String} {taken : Nat}
    (h : scan stem cs = some (name, taken)) : 0 < taken ∧ taken ≤ cs.length := by
  induction cs generalizing name taken with
  | nil => simp [scan] at h
  | cons c rest ih =>
    simp only [scan] at h
    split at h
    · simp only [Option.some.injEq, Prod.mk.injEq] at h
      simp only [List.length_cons]
      omega
    · obtain ⟨⟨n, k⟩, hk, heq⟩ := Option.map_eq_some_iff.mp h
      simp only [Prod.mk.injEq] at heq
      have := ih hk
      simp only [List.length_cons]
      omega

/-- Every candidate uses up room. -/
theorem room_next {c : Cursor} {m : Menu} {name : String} (h : (c.next m).1 = some name) :
    (c.next m).2.room m < c.room m := by
  unfold next at h ⊢
  split
  · next found taken hscan =>
    have := scan_taken hscan
    simp only [List.length_drop] at this
    simp only [room, Menu.size]
    cases c.exitOffered <;> cases found == exitWord <;> simp <;> omega
  · next hscan =>
    simp only [hscan] at h
    split
    · next hexit =>
      have : c.exitOffered = false := by
        cases hc : c.exitOffered <;> simp_all
      simp only [room, this]
      simp only [if_true, Bool.false_eq_true, if_false]
      omega
    · next hexit => simp [hexit] at h

/-- The candidates that are left in a round over one menu. -/
def remaining (c : Cursor) (m : Menu) : List String :=
  match _ : (c.next m).1 with
  | none => []
  | some name => name :: (c.next m).2.remaining m
termination_by c.room m
decreasing_by exact room_next ‹_›

end Cursor

/-- All candidates for a stem over a menu. -/
def candidates (m : Menu) (stem : String) : List String :=
  (Cursor.ofStem stem).remaining m

/-- The round in progress, if any. -/
structure Rounds where
  current : Option Cursor := none
  deriving DecidableEq, Repr

namespace Rounds

/-- The cursor that a call continues: a new one for the state `0`, for another stem, and when no
round is in progress. -/
def cursorFor (r : Rounds) (stem : String) (state : Nat) : Cursor :=
  match r.current with
  | none => .ofStem stem
  | some c => if state = 0 ∨ c.stem ≠ stem then .ofStem stem else c

/-- One call of the protocol: the next candidate, and the round after it. -/
def next (r : Rounds) (m : Menu) (stem : String) (state : Nat) : Option String × Rounds :=
  let (candidate, c) := (r.cursorFor stem state).next m
  (candidate, ⟨some c⟩)

/-- The candidates of calls with the states `state`, `state + 1`, … up to the first that gives none;
`fuel` bounds the number of calls. -/
def drain (m : Menu) (stem : String) : (fuel : Nat) → Rounds → (state : Nat) → List String
  | 0, _, _ => []
  | fuel + 1, r, state =>
    match r.next m stem state with
    | (none, _) => []
    | (some name, r) => name :: drain m stem fuel r (state + 1)

end Rounds

end DaemonConsole.Completion
