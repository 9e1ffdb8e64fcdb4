/-
Tables in ascending order of their keys.

A key type is ranked by natural numbers, different keys having different ranks. A table is a list of
entries whose ranks ascend, so it has one representation and its list is the order in which it is
shown.

* `Table.get?`, `Table.insert`, `Table.erase`: look-up, adding or replacing, removing;
* `Table.get?_insert`, `Table.get?_erase`: what a look-up finds after a change;
* `Table.mem_entries_iff`: the entries are what look-ups find;
* `Table.ext_get?`: two tables with the same look-ups are equal;
* `Table.insert_of_get?`, `Table.erase_of_get?`: changes that change nothing.
-/
namespace DaemonConsole

/-- A type ordered by a number that tells its values apart. -/
class Ranked (κ : Type) where
  rank : κ → Nat
  rank_injective : ∀ {a b : κ}, rank a = rank b → a = b

open Ranked (rank rank_injective)

instance : Ranked UInt16 where
  rank := UInt16.toNat
  rank_injective := UInt16.toNat_inj.mp

instance : Ranked UInt32 where
  rank := UInt32.toNat
  rank_injective := UInt32.toNat_inj.mp

/-- Entries in ascending order of their keys. -/
structure Table (κ ν : Type) [Ranked κ] where
  entries : List (κ × ν)
  ascending : entries.Pairwise fun a b => rank a.1 < rank b.1

namespace Table

variable {κ ν : Type} [Ranked κ]

/-! ### Entry lists -/

/-- The value of the first entry with a key. -/
def lookupEntry (k : κ) : List (κ × ν) → Option ν
  | [] => none
  | (a, x) :: rest => if rank a = rank k then some x else lookupEntry k rest

/-- Puts an entry at its place, over the entry of the same key if there is one. -/
def insertEntry (k : κ) (v : ν) : List (κ × ν) → List (κ × ν)
  | [] => [(k, v)]
  | (a, x) :: rest =>
    if rank k < rank a then (k, v) :: (a, x) :: rest
    else if rank k = rank a then (k, v) :: rest
    else (a, x) :: insertEntry k v rest

/-- Leaves out the entries of a key. -/
def eraseEntry (k : κ) (entries : List (κ × ν)) : List (κ × ν) :=
  entries.filter fun e => rank e.1 ≠ rank k

/-- An inserted list holds the new entry and old ones only. -/
theorem mem_insertEntry {k : κ} {v : ν} {entries : List (κ × ν)} {e : κ × ν}
    (h : e ∈ insertEntry k v entries) : e = (k, v) ∨ e ∈ entries := by
  induction entries with
  | nil => simpa [insertEntry] using h
  | cons head rest ih =>
    obtain ⟨a, x⟩ := head
    simp only [insertEntry] at h
    split at h
    · simpa using h
    · split at h
      · rcases List.mem_cons.mp h with h | h
        · exact Or.inl h
        · exact Or.inr (List.mem_cons_of_mem _ h)
      · rcases List.mem_cons.mp h with h | h
        · exact Or.inr (by simp [h])
        · rcases ih h with h | h
          · exact Or.inl h
          · exact Or.inr (List.mem_cons_of_mem _ h)

/-- Inserting keeps the ranks ascending. -/
theorem ascending_insertEntry (k : κ) (v : ν) {entries : List (κ × ν)}
    (h : entries.Pairwise fun a b => rank a.1 < rank b.1) :
    (insertEntry k v entries).Pairwise fun a b => rank a.1 < rank b.1 := by
  induction entries with
  | nil => simp [insertEntry]
  | cons head rest ih =>
    obtain ⟨a, x⟩ := head
    have ⟨hhead, hrest⟩ := List.pairwise_cons.mp h
    simp only [insertEntry]
    split
    · next hlt =>
      refine List.pairwise_cons.mpr ⟨fun e he => ?_, h⟩
      rcases List.mem_cons.mp he with rfl | he
      · exact hlt
      · exact Nat.lt_trans hlt (hhead e he)
    · split
      · next heq =>
        refine List.pairwise_cons.mpr ⟨fun e he => ?_, hrest⟩
        have := hhead e he
        simp only at this ⊢
        omega
      · next hnlt hne =>
        refine List.pairwise_cons.mpr ⟨fun e he => ?_, ih hrest⟩
        rcases mem_insertEntry he with rfl | he
        · simp only
          omega
        · exact hhead e he

/-- A look-up after inserting finds the new value under its key and the old ones elsewhere. -/
theorem lookupEntry_insertEntry (k j : κ) (v : ν) (entries : List (κ × ν)) :
    lookupEntry j (insertEntry k v entries)
      = if rank k = rank j then some v else lookupEntry j entries := by
  induction entries with
  | nil => simp [insertEntry, lookupEntry]
  | cons head rest ih =>
    obtain ⟨a, x⟩ := head
    simp only [insertEntry]
    split
    · simp only [lookupEntry]
    · split
      · next heq =>
        simp only [lookupEntry, heq]
        split <;> rfl
      · next hnlt hne =>
        simp only [lookupEntry, ih]
        split
        · next haj =>
          have : rank k ≠ rank j := by omega
          simp [this]
        · rfl

/-- A look-up after erasing finds nothing under the key and the old values elsewhere. -/
theorem lookupEntry_eraseEntry (k j : κ) (entries : List (κ × ν)) :
    lookupEntry j (eraseEntry k entries)
      = if rank k = rank j then none else lookupEntry j entries := by
  induction entries with
  | nil => simp [eraseEntry, lookupEntry]
  | cons head rest ih =>
    obtain ⟨a, x⟩ := head
    simp only [eraseEntry, List.filter_cons] at ih ⊢
    by_cases hak : rank a = rank k
    · simp only [hak, ne_eq, not_true_eq_false, decide_false, Bool.false_eq_true, if_false, ih,
        lookupEntry]
      split <;> rfl
    · simp only [hak, ne_eq, not_false_eq_true, decide_true, if_true, lookupEntry, ih]
      split
      · next haj =>
        have : rank k ≠ rank j := by omega
        simp [this]
      · rfl

/-! ### Tables -/

/-- The table without entries. -/
def empty : Table κ ν :=
  ⟨[], List.Pairwise.nil⟩

instance : EmptyCollection (Table κ ν) := ⟨empty⟩

instance : Inhabited (Table κ ν) := ⟨empty⟩

/-- The value stored under a key. -/
def get? (t : Table κ ν) (k : κ) : Option ν :=
  lookupEntry k t.entries

/-- Whether something is stored under a key. -/
def contains (t : Table κ ν) (k : κ) : Bool :=
  (t.get? k).isSome

/-- Stores a value under a key, in place of what was there. -/
def insert (t : Table κ ν) (k : κ) (v : ν) : Table κ ν :=
  ⟨insertEntry k v t.entries, ascending_insertEntry k v t.ascending⟩

/-- Removes what is stored under a key. -/
def erase (t : Table κ ν) (k : κ) : Table κ ν :=
  ⟨eraseEntry k t.entries, t.ascending.filter _⟩

/-- The keys in ascending order. -/
def keys (t : Table κ ν) : List κ :=
  t.entries.map (·.1)

/-- Whether nothing is stored. -/
def isEmpty (t : Table κ ν) : Bool :=
  t.entries.isEmpty

/-- The number of entries. -/
def size (t : Table κ ν) : Nat :=
  t.entries.length

/-- The table that a list of entries gives, a later entry of a key replacing an earlier one. -/
def ofList (entries : List (κ × ν)) : Table κ ν :=
  entries.foldl (fun t e => t.insert e.1 e.2) empty

/-- A look-up in the empty table finds nothing. -/
@[simp] theorem get?_empty (k : κ) : (empty : Table κ ν).get? k = none := rfl

/-- A look-up after an insertion. -/
theorem get?_insert (t : Table κ ν) (k j : κ) (v : ν) :
    (t.insert k v).get? j = if rank k = rank j then some v else t.get? j :=
  lookupEntry_insertEntry k j v t.entries

/-- What was stored under a key is found under it. -/
theorem get?_insert_self (t : Table κ ν) (k : κ) (v : ν) : (t.insert k v).get? k = some v := by
  rw [get?_insert, if_pos rfl]

/-- Storing under a key leaves the look-ups of the others. -/
theorem get?_insert_of_ne (t : Table κ ν) {k j : κ} (v : ν) (h : k ≠ j) :
    (t.insert k v).get? j = t.get? j := by
  rw [get?_insert, if_neg fun hrank => h (rank_injective hrank)]

/-- A look-up after a removal. -/
theorem get?_erase (t : Table κ ν) (k j : κ) :
    (t.erase k).get? j = if rank k = rank j then none else t.get? j :=
  lookupEntry_eraseEntry k j t.entries

/-- What was removed is not found. -/
theorem get?_erase_self (t : Table κ ν) (k : κ) : (t.erase k).get? k = none := by
  rw [get?_erase, if_pos rfl]

/-- Removing a key leaves the look-ups of the others. -/
theorem get?_erase_of_ne (t : Table κ ν) {k j : κ} (h : k ≠ j) : (t.erase k).get? j = t.get? j := by
  rw [get?_erase, if_neg fun hrank => h (rank_injective hrank)]

/-- Nothing is found under a key below every stored one. -/
theorem lookupEntry_eq_none_of_lt {k : κ} {entries : List (κ × ν)}
    (h : ∀ e ∈ entries, rank k < rank e.1) : lookupEntry k entries = none := by
  induction entries with
  | nil => rfl
  | cons head rest ih =>
    have hhead := h head (by simp)
    have hne : ¬ rank head.1 = rank k := by omega
    simp only [lookupEntry, hne, if_false]
    exact ih fun e he => h e (List.mem_cons_of_mem _ he)

/-- The entries of an ascending list are what look-ups find in it. -/
theorem mem_iff_lookupEntry {entries : List (κ × ν)}
    (h : entries.Pairwise fun a b => rank a.1 < rank b.1) (k : κ) (v : ν) :
    (k, v) ∈ entries ↔ lookupEntry k entries = some v := by
  induction entries with
  | nil => simp [lookupEntry]
  | cons head rest ih =>
    obtain ⟨a, x⟩ := head
    have ⟨hhead, hrest⟩ := List.pairwise_cons.mp h
    simp only [List.mem_cons, lookupEntry]
    by_cases hk : rank a = rank k
    · -- behind the head there is no entry of its key
      have hnot : (k, v) ∉ rest := fun hmem => by
        have := hhead (k, v) hmem
        simp only at this
        omega
      obtain rfl := rank_injective hk
      simp [hnot, eq_comm]
    · have hne : (k, v) ≠ (a, x) := fun heq => hk (by rw [(Prod.mk.inj heq).1])
      simp [hk, hne, ih hrest]

/-- Ascending lists with the same look-ups are equal. -/
theorem entries_eq_of_lookupEntry {xs ys : List (κ × ν)}
    (hx : xs.Pairwise fun a b => rank a.1 < rank b.1)
    (hy : ys.Pairwise fun a b => rank a.1 < rank b.1)
    (h : ∀ k, lookupEntry k xs = lookupEntry k ys) : xs = ys := by
  induction xs generalizing ys with
  | nil =>
    cases ys with
    | nil => rfl
    | cons y ys => simpa [lookupEntry] using h y.1
  | cons x xs ih =>
    cases ys with
    | nil => simpa [lookupEntry] using h x.1
    | cons y ys =>
      have ⟨hx₁, hx₂⟩ := List.pairwise_cons.mp hx
      have ⟨hy₁, hy₂⟩ := List.pairwise_cons.mp hy
      have hrank : rank x.1 = rank y.1 := by
        rcases Nat.lt_trichotomy (rank x.1) (rank y.1) with hlt | heq | hgt
        · have hnone : lookupEntry x.1 (y :: ys) = none := by
            refine lookupEntry_eq_none_of_lt fun e he => ?_
            rcases List.mem_cons.mp he with rfl | he
            · exact hlt
            · exact Nat.lt_trans hlt (hy₁ e he)
          have := h x.1
          rw [hnone] at this
          simp [lookupEntry] at this
        · exact heq
        · have hnone : lookupEntry y.1 (x :: xs) = none := by
            refine lookupEntry_eq_none_of_lt fun e he => ?_
            rcases List.mem_cons.mp he with rfl | he
            · exact hgt
            · exact Nat.lt_trans hgt (hx₁ e he)
          have := h y.1
          rw [hnone] at this
          simp [lookupEntry] at this
      have hkey := rank_injective hrank
      obtain ⟨a, v⟩ := x
      obtain ⟨b, w⟩ := y
      simp only at hkey hrank hx₁ hy₁
      subst hkey
      have hv := h a
      simp only [lookupEntry, if_true, Option.some.injEq] at hv
      subst hv
      congr 1
      refine ih hx₂ hy₂ fun k => ?_
      by_cases hk : rank a = rank k
      · rw [lookupEntry_eq_none_of_lt fun e he => hk ▸ hx₁ e he,
          lookupEntry_eq_none_of_lt fun e he => hk ▸ hy₁ e he]
      · simpa [lookupEntry, hk] using h k

/-- The entries of a table are what look-ups find in it. -/
theorem mem_entries_iff {t : Table κ ν} {k : κ} {v : ν} :
    (k, v) ∈ t.entries ↔ t.get? k = some v :=
  mem_iff_lookupEntry t.ascending k v

/-- The keys are those that look-ups find something under. -/
theorem mem_keys_iff {t : Table κ ν} {k : κ} : k ∈ t.keys ↔ ∃ v, t.get? k = some v := by
  rw [keys, List.mem_map]
  constructor
  · rintro ⟨⟨k, v⟩, hmem, rfl⟩
    exact ⟨v, mem_entries_iff.mp hmem⟩
  · rintro ⟨v, hget⟩
    exact ⟨(k, v), mem_entries_iff.mpr hget, rfl⟩

/-- The keys ascend. -/
theorem ascending_keys (t : Table κ ν) : t.keys.Pairwise fun a b => rank a < rank b :=
  List.pairwise_map.mpr t.ascending

/-- Something is stored under a key exactly if a look-up finds it. -/
theorem contains_eq_false_iff {t : Table κ ν} {k : κ} :
    t.contains k = false ↔ t.get? k = none :=
  Option.isSome_eq_false_iff.trans Option.isNone_iff_eq_none

/-- Tables with the same look-ups are equal. -/
theorem ext_get? {s t : Table κ ν} (h : ∀ k, s.get? k = t.get? k) : s = t := by
  obtain ⟨xs, hx⟩ := s
  obtain ⟨ys, hy⟩ := t
  have : xs = ys := entries_eq_of_lookupEntry hx hy h
  subst this
  rfl

/-- Storing what is stored already changes nothing. -/
theorem insert_of_get? {t : Table κ ν} {k : κ} {v : ν} (h : t.get? k = some v) :
    t.insert k v = t := by
  refine ext_get? fun j => ?_
  by_cases hj : k = j
  · subst hj
    rw [get?_insert_self, h]
  · rw [get?_insert_of_ne _ _ hj]

/-- Removing what is not stored changes nothing. -/
theorem erase_of_get? {t : Table κ ν} {k : κ} (h : t.get? k = none) : t.erase k = t := by
  refine ext_get? fun j => ?_
  by_cases hj : k = j
  · subst hj
    rw [get?_erase_self, h]
  · rw [get?_erase_of_ne _ hj]

/-- Removing what was stored under a free key undoes the storing. -/
theorem erase_insert {t : Table κ ν} {k : κ} (v : ν) (h : t.get? k = none) :
    (t.insert k v).erase k = t := by
  refine ext_get? fun j => ?_
  by_cases hj : rank k = rank j
  · obtain rfl := rank_injective hj
    rw [get?_erase_self, h]
  · rw [get?_erase, if_neg hj, get?_insert, if_neg hj]

end Table

end DaemonConsole
