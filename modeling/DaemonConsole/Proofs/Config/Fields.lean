/-
The fields of a decoded object.

An object is decoded from its members in the order of their keys, the last one of a key kept. So a
field is there exactly once or not at all, and it is what a look-up from the end of the members
finds.

* `Datum.Sorted`: fields in ascending order of their keys;
* `Datum.sorted_sortFields`, `Datum.lookup_sortFields`: sorting gives such fields, with the last
  value of each key;
* `Datum.found`, `Datum.lookup_fields`: the fields of an object by its members;
* `readField`: what a field that may be missing is read as;
* `FieldByField`: records that are read field by field; `FieldByField.foldlM_object`: such a record
  is read from what is found among the members of an object.
-/
import DaemonConsole.Config.Decode
import Mathlib.Data.List.Induction
import Mathlib.Tactic.Lemma

namespace DaemonConsole

namespace Datum

/-- A look-up compares with the first key. -/
lemma lookup_cons_ite {α : Type} {key : String} {value : α} {rest : List (String × α)}
    (k : String) :
    ((key, value) :: rest).lookup k = if k = key then some value else rest.lookup k := by
  rw [List.lookup_cons]
  by_cases hk : k = key
  · simp [hk]
  · rw [if_neg hk, beq_eq_false_iff_ne.mpr hk]

/-! ### Sorted fields -/

/-- Fields in ascending order of their keys. -/
def Sorted (fields : List (String × Datum)) : Prop :=
  fields.Pairwise fun a b => a.1 < b.1

variable {key : String} {value : Datum} {fields : List (String × Datum)}

/-- What is among the fields after an insertion is the new one or was there. -/
lemma mem_insertField {f : String × Datum} (h : f ∈ insertField key value fields) :
    f = (key, value) ∨ f ∈ fields := by
  induction fields with
  | nil => exact .inl (List.mem_singleton.mp h)
  | cons head rest ih =>
      obtain ⟨k, v⟩ := head
      rw [insertField] at h
      split_ifs at h with hlt heq
      · exact List.mem_cons.mp h
      · rcases List.mem_cons.mp h with h | h
        · exact .inl h
        · exact .inr (List.mem_cons_of_mem _ h)
      · rcases List.mem_cons.mp h with h | h
        · exact .inr (h ▸ List.mem_cons_self)
        · exact (ih h).imp_right (List.mem_cons_of_mem _)

/-- Inserting keeps fields sorted. -/
lemma Sorted.insertField (h : Sorted fields) : Sorted (insertField key value fields) := by
  induction fields with
  | nil => exact List.pairwise_singleton _ _
  | cons head rest ih =>
      obtain ⟨k, v⟩ := head
      obtain ⟨hhead, hrest⟩ := List.pairwise_cons.mp h
      rw [Datum.insertField]
      split_ifs with hlt heq
      · refine List.pairwise_cons.mpr ⟨fun f hf => ?_, h⟩
        rcases List.mem_cons.mp hf with rfl | hf
        · exact hlt
        · exact String.lt_trans hlt (hhead f hf)
      · exact List.pairwise_cons.mpr ⟨fun f hf => heq ▸ hhead f hf, hrest⟩
      · have hgt : k < key := by
          by_contra hnot
          exact heq (String.le_antisymm (String.not_lt.mp hnot) (String.not_lt.mp hlt))
        refine List.pairwise_cons.mpr ⟨fun f hf => ?_, ih hrest⟩
        rcases mem_insertField hf with rfl | hf
        · exact hgt
        · exact hhead f hf

/-- After an insertion the new value is found under its key, and the old ones under the others. -/
lemma lookup_insertField (k : String) :
    (insertField key value fields).lookup k = if k = key then some value else fields.lookup k := by
  induction fields with
  | nil =>
      rw [insertField, lookup_cons_ite]
  | cons head rest ih =>
      obtain ⟨j, v⟩ := head
      rw [insertField]
      by_cases hlt : key < j
      · rw [if_pos hlt, lookup_cons_ite]
      by_cases heq : key = j
      · subst heq
        rw [if_neg hlt, if_pos rfl, lookup_cons_ite, lookup_cons_ite]
        split_ifs <;> rfl
      · rw [if_neg hlt, if_neg heq, lookup_cons_ite, lookup_cons_ite, ih]
        by_cases hk : k = j
        · rw [if_pos hk, if_pos hk, if_neg fun h => heq (h.symm.trans hk)]
        · rw [if_neg hk, if_neg hk]

/-- Sorting takes one field after another. -/
lemma sortFields_concat (f : String × Datum) :
    sortFields (fields ++ [f]) = insertField f.1 f.2 (sortFields fields) := by
  rw [sortFields, List.foldl_append]
  rfl

/-- Sorted fields are sorted. -/
lemma sorted_sortFields (fields : List (String × Datum)) : Sorted (sortFields fields) := by
  induction fields using List.reverseRecOn with
  | nil => exact List.Pairwise.nil
  | append_singleton fields f ih =>
      rw [sortFields_concat]
      exact ih.insertField

/-- The last value of a key is kept. -/
lemma lookup_sortFields (k : String) (fields : List (String × Datum)) :
    (sortFields fields).lookup k = fields.reverse.lookup k := by
  induction fields using List.reverseRecOn with
  | nil => rfl
  | append_singleton fields f ih =>
      rw [sortFields_concat, lookup_insertField, ih, List.reverse_append, List.reverse_singleton,
        List.singleton_append, lookup_cons_ite]

/-- Behind its own key a sorted list has no other field of it. -/
lemma Sorted.lookup_eq_none {rest : List (String × Datum)} (h : Sorted ((key, value) :: rest)) :
    rest.lookup key = none := by
  refine List.lookup_eq_none_iff.mpr fun f hf => ?_
  have hlt : key < f.1 := (List.pairwise_cons.mp h).1 f hf
  simpa using fun heq : key = f.1 => String.lt_irrefl f.1 (heq ▸ hlt)

/-! ### Fields of an object -/

/-- The last member of a key, as data. -/
def found (members : List (String × Json)) (key : String) : Option Datum :=
  (members.reverse.lookup key).map ofJson

lemma ofJsonMembers_eq_map (members : List (String × Json)) :
    ofJsonMembers members = members.map fun m => (m.1, ofJson m.2) := by
  induction members with
  | nil => rfl
  | cons m rest ih => rw [ofJsonMembers, ih, List.map_cons]

lemma ofJsonItems_eq_map (items : List Json) : ofJsonItems items = items.map ofJson := by
  induction items with
  | nil => rfl
  | cons item rest ih => rw [ofJsonItems, ih, List.map_cons]

/-- A look-up among values that were all changed. -/
lemma lookup_map {α β : Type} (f : α → β) (fields : List (String × α)) (k : String) :
    (fields.map fun p => (p.1, f p.2)).lookup k = (fields.lookup k).map f := by
  induction fields with
  | nil => rfl
  | cons p rest ih =>
      rw [List.map_cons, lookup_cons_ite, ih, lookup_cons_ite]
      split_ifs <;> rfl

/-- What is found among the fields of an object is what is found among its members. -/
lemma lookup_fields (members : List (String × Json)) (k : String) :
    (sortFields (ofJsonMembers members)).lookup k = found members k := by
  rw [lookup_sortFields, ofJsonMembers_eq_map, ← List.map_reverse, lookup_map, found]

/-- Members behind others count first. -/
lemma found_append (before after : List (String × Json)) (k : String) :
    found (before ++ after) k = (found after k).or (found before k) := by
  rw [found, List.reverse_append, List.lookup_append, Option.map_or]
  rfl

@[simp] lemma found_singleton (key : String) (value : Json) (k : String) :
    found [(key, value)] k = if k = key then some (ofJson value) else none := by
  rw [found, List.reverse_singleton, lookup_cons_ite]
  split_ifs <;> rfl

end Datum

/-! ### Fields that are read -/

/-- What a field is read as; one that is missing leaves what was read before. -/
def readField {α : Type} (decode : Datum → Except DecodeError α) (before : α) :
    Option Datum → Except DecodeError α
  | some d => decode d
  | none => .ok before

section Reading

variable {α : Type} {decode : Datum → Except DecodeError α}

@[simp, grind =] lemma readField_none {x : α} : readField decode x none = .ok x := rfl

@[simp, grind =] lemma readField_some {x : α} {d : Datum} :
    readField decode x (some d) = decode d := rfl

/-- A value that is kept as one that is there. -/
def decodeSome {α : Type} (decode : Datum → Except DecodeError α) (d : Datum) :
    Except DecodeError (Option α) :=
  (decode d).map some

/-- A field that is in one of two places is read from both, one after the other. -/
lemma readField_or {x z : α} {a b : Option Datum} (h : a = none ∨ b = none) :
    readField decode x (a.or b) = .ok z ↔
      ∃ y, readField decode x a = .ok y ∧ readField decode y b = .ok z := by
  rcases h with rfl | rfl
  · simp
  · simp

/-- A field with a default, read by way of an absent value. -/
lemma readField_getD {x a : α} {found : Option Datum} :
    (∃ o, readField (decodeSome decode) none found = .ok o ∧ o.getD x = a) ↔
      readField decode x found = .ok a := by
  cases found with
  | none => simp
  | some d => cases hd : decode d <;> simp [decodeSome, hd, Except.map]

/-- A field that has to be there, read by way of an absent value. -/
lemma readField_required {a : α} (name : String) {found : Option Datum} :
    (∃ o, readField (decodeSome decode) none found = .ok o ∧ required name o = .ok a) ↔
      ∃ d, found = some d ∧ decode d = .ok a := by
  cases found with
  | none => simp [required]
  | some d => cases hd : decode d <;> simp [decodeSome, hd, Except.map, required]

end Reading

/-! ### Records -/

section Results

variable {ε α β : Type}

lemma pure_eq_ok_iff {a b : α} : (pure a : Except ε α) = .ok b ↔ a = b :=
  ⟨fun h => by injection h, congrArg Except.ok⟩

lemma map_eq_ok_iff {x : Except ε α} {f : α → β} {b : β} :
    f <$> x = .ok b ↔ ∃ a, x = .ok a ∧ f a = b := by
  cases x with
  | error e => simp
  | ok a => simp

lemma bind_eq_ok_iff {x : Except ε α} {f : α → Except ε β} {b : β} :
    x >>= f = .ok b ↔ ∃ a, x = .ok a ∧ f a = .ok b := by
  cases x with
  | error e => simp [bind, Except.bind]
  | ok a => simp [bind, Except.bind]

end Results

/-- A record that is read field by field: `Reads r found r'` says that the record `r` becomes `r'`
once the fields that are found were read. -/
structure FieldByField {ρ : Type} (visit : ρ → String × Datum → Except DecodeError ρ)
    (Reads : ρ → (String → Option Datum) → ρ → Prop) : Prop where
  /-- Without a field nothing changes. -/
  none_iff : ∀ r r', Reads r (fun _ => none) r' ↔ r = r'
  /-- A visit reads one field. -/
  visit_iff : ∀ r f r', visit r f = .ok r' ↔ Reads r (fun k => [f].lookup k) r'
  /-- Fields under different keys are read one after another. -/
  or_iff : ∀ r a b r', (∀ k, a k = none ∨ b k = none) →
    (Reads r (fun k => (a k).or (b k)) r' ↔ ∃ m, Reads r a m ∧ Reads m b r')

namespace FieldByField

variable {ρ : Type} {visit : ρ → String × Datum → Except DecodeError ρ}
  {Reads : ρ → (String → Option Datum) → ρ → Prop} (h : FieldByField visit Reads)

include h

/-- Visits one after another read what is found among the fields. -/
lemma foldlM_eq_ok_iff {fields : List (String × Datum)} (hsorted : Datum.Sorted fields) (r r' : ρ) :
    fields.foldlM visit r = .ok r' ↔ Reads r (fun k => fields.lookup k) r' := by
  induction fields generalizing r with
  | nil => exact pure_eq_ok_iff.trans (h.none_iff r r').symm
  | cons f rest ih =>
      have hapart : ∀ k, [f].lookup k = none ∨ rest.lookup k = none := by
        intro k
        by_cases hk : k = f.1
        · exact .inr (hk ▸ hsorted.lookup_eq_none)
        · exact .inl (by rw [Datum.lookup_cons_ite, if_neg hk, List.lookup_nil])
      have hsplit : (fun k => (f :: rest).lookup k) = fun k => ([f].lookup k).or (rest.lookup k) :=
        funext fun k => (List.lookup_append : ([f] ++ rest).lookup k = _)
      rw [List.foldlM_cons, bind_eq_ok_iff, hsplit, h.or_iff r _ _ r' hapart]
      exact exists_congr fun m =>
        and_congr (h.visit_iff r f m) (ih (List.pairwise_cons.mp hsorted).2 m)

/-- So an object is read from what is found among its members. -/
lemma foldlM_object (members : List (String × Json)) (r r' : ρ) :
    (Datum.sortFields (Datum.ofJsonMembers members)).foldlM visit r = .ok r' ↔
      Reads r (Datum.found members) r' := by
  rw [h.foldlM_eq_ok_iff (Datum.sorted_sortFields _) r r']
  simp only [Datum.lookup_fields]

end FieldByField

end DaemonConsole
