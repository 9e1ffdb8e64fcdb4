/-
What stands in a menu and what is found there.

The check of a command accepts the valid ones. A look-up gives a command of the menu with the wanted
name or identifier. Where only one command has it, the look-up gives that one.

* `Command.make_eq_ok_iff`: the commands that the check accepts;
* `Menu.mem_of_find?`, `Menu.name_of_find?`, `Menu.exists_findById?`: the command that was found;
* `Menu.exists_find?_iff`: the names under which something is found;
* `Menu.find?_eq_of_unique`, `Menu.findById?_eq_of_unique`: the command that has to be found.
-/
import DaemonConsole.Menu.Basic
import Mathlib.Tactic.Lemma

namespace DaemonConsole

/-- A search finds the only entry that it is for. -/
lemma find?_eq_some_of_unique {α : Type} {xs : List α} {p : α → Bool} {x : α} (hx : x ∈ xs)
    (hp : p x = true) (hunique : ∀ y ∈ xs, p y = true → y = x) : xs.find? p = some x := by
  cases hfind : xs.find? p with
  | none => exact absurd hp (List.find?_eq_none.mp hfind x hx)
  | some y => rw [hunique y (List.mem_of_find?_eq_some hfind) (List.find?_some hfind)]

/-- The check of a command accepts the valid ones. -/
lemma Command.make_eq_ok_iff {c : Command} : make c.id c.name c.description = .ok c ↔ c.Valid := by
  rw [make, Valid]
  by_cases hempty : c.name = ""
  · simp [hempty]
  · by_cases hlength : maxNameLength < c.name.length
    · simp [hempty, hlength, Nat.not_le.mpr hlength]
    · by_cases hblank : Text.hasBlank c.name = true
      · simp [hempty, hlength, hblank]
      · by_cases hlong : maxDescriptionLength < c.description.length
        · simp [hempty, hlength, hblank, hlong, Nat.not_le.mpr hlong]
        · simp [hempty, hlength, hblank, hlong, Nat.not_lt.mp]

namespace Menu

variable {m : Menu} {c : Command}

/-- What a menu finds under a name is one of its commands. -/
lemma mem_of_find? {name : String} (h : m.find? name = some c) : c ∈ m.commands :=
  List.mem_of_find?_eq_some h

/-- What a menu finds under a name has this name. -/
lemma name_of_find? {name : String} (h : m.find? name = some c) : c.name = name := by
  simpa using List.find?_some h

/-- A menu finds something under its names and under no others. -/
lemma exists_find?_iff {name : String} : (∃ c, m.find? name = some c) ↔ name ∈ m.names := by
  rw [names, List.mem_map]
  constructor
  · rintro ⟨c, hfind⟩
    exact ⟨c, mem_of_find? hfind, name_of_find? hfind⟩
  · rintro ⟨c, hc, rfl⟩
    cases hfind : m.find? c.name with
    | some d => exact ⟨d, rfl⟩
    | none =>
        have hne := List.find?_eq_none.mp hfind c hc
        simp at hne

/-- A menu finds something under the identifier of each of its commands. -/
lemma exists_findById? (h : c ∈ m.commands) : ∃ d, m.findById? c.id = some d := by
  cases hd : m.findById? c.id with
  | some d => exact ⟨d, rfl⟩
  | none =>
      have hne := List.find?_eq_none.mp hd c h
      simp at hne

/-- A command whose name no other has is found under it. -/
lemma find?_eq_of_unique (hc : c ∈ m.commands)
    (hunique : ∀ d ∈ m.commands, d.name = c.name → d = c) : m.find? c.name = some c := by
  refine find?_eq_some_of_unique hc (beq_self_eq_true _) fun d hd hname => ?_
  exact hunique d hd (beq_iff_eq.mp hname)

/-- A command whose identifier no other has is found under it. -/
lemma findById?_eq_of_unique (hc : c ∈ m.commands)
    (hunique : ∀ d ∈ m.commands, d.id = c.id → d = c) : m.findById? c.id = some c := by
  refine find?_eq_some_of_unique hc (beq_self_eq_true _) fun d hd hid => ?_
  exact hunique d hd (beq_iff_eq.mp hid)

end Menu

end DaemonConsole
