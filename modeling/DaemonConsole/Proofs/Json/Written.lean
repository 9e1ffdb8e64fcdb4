/-
JSON values that are written are read back.

A string is read back character by character, since every escape stands for one character. A value
is read off the front of a text that does not go on with a number; from this the reader gets through
the items of an array and the members of an object, whatever stands behind them.

* `Plain`: the values without decimals, whose digits a reader may cut off;
* `readText_escaped`: the characters of a string;
* `Stops`, `ReadBack`: what may stand behind a value, and the values that are read back;
* `parse?_write`: the text of a plain value denotes it;
* `Plain.printable`: this text holds no control characters.
-/
import DaemonConsole.Json.Reader
import DaemonConsole.Proofs.Text.Numeral
import Mathlib.Tactic.Lemma

namespace DaemonConsole.Json

/-- The values without decimals. -/
inductive Plain : Json → Prop
  | null : Plain null
  | bool (value : Bool) : Plain (bool value)
  | integer (value : Int) : Plain (integer value)
  | text (value : String) : Plain (text value)
  | array {items : List Json} : (∀ item ∈ items, Plain item) → Plain (array items)
  | object {members : List (String × Json)} :
      (∀ member ∈ members, Plain member.2) → Plain (object members)

/-! ### Strings -/

section Strings

variable {fuel : Nat} {rest : List Char}

/-- The four digits of a control character. -/
lemma fourHex?_control {n : Nat} (h : n < 0x20) :
    fourHex? ('0' :: '0' :: hexDigit (n / 16) :: hexDigit (n % 16) :: rest) = some (n, rest) := by
  have hdigits : ∀ n < 0x20,
      ['0', '0', hexDigit (n / 16), hexDigit (n % 16)].all (Numeral.isDigit 16) = true ∧
        Numeral.ofDigits 16 ['0', '0', hexDigit (n / 16), hexDigit (n % 16)] = n := by decide
  obtain ⟨hall, hvalue⟩ := hdigits n h
  rw [fourHex?, if_pos hall, hvalue]

lemma readText_simple {e c : Char} (h : simpleEscape? e = some c) (hu : e ≠ 'u') :
    readText (fuel + 1) ('\\' :: e :: rest)
      = (readText fuel rest).map fun p => (c :: p.1, p.2) := by
  rw [readText]
  · rw [h]
    exact Option.map_eq_bind.symm
  · simpa using hu

lemma readText_control {c : Char} (h : c.toNat < 0x20) :
    readText (fuel + 1)
        ('\\' :: 'u' :: '0' :: '0' :: hexDigit (c.toNat / 16) :: hexDigit (c.toNat % 16) :: rest)
      = (readText fuel rest).map fun p => (c :: p.1, p.2) := by
  have hescape : unicodeEscape? ('0' :: '0' :: hexDigit (c.toNat / 16)
      :: hexDigit (c.toNat % 16) :: rest) = some (c, rest) := by
    rw [unicodeEscape?, fourHex?_control h]
    simp only []
    rw [if_neg (by omega), if_neg (by omega), Char.ofNat_toNat]
  rw [readText, hescape]
  exact Option.map_eq_bind.symm

lemma readText_plain {c : Char} (hquote : c ≠ '"') (hslash : c ≠ '\\') (h : 0x20 ≤ c.toNat) :
    readText (fuel + 1) (c :: rest) = (readText fuel rest).map fun p => (c :: p.1, p.2) := by
  rw [readText]
  · rw [if_neg (by simp [hslash]; omega)]
    exact Option.map_eq_bind.symm
  · exact hquote
  · rintro rest rfl
    exact absurd rfl hslash
  · rintro e rest rfl
    exact absurd rfl hslash

/-- An escape is read as the character that it stands for. -/
lemma readText_escapeChar (c : Char) :
    readText (fuel + 1) (escapeChar c ++ rest)
      = (readText fuel rest).map fun p => (c :: p.1, p.2) := by
  rw [escapeChar]
  split_ifs with hquote hslash hb hf hn hr ht hcontrol
  · subst hquote
    exact readText_simple rfl (by decide)
  · subst hslash
    exact readText_simple rfl (by decide)
  · subst hb
    exact readText_simple rfl (by decide)
  · subst hf
    exact readText_simple rfl (by decide)
  · subst hn
    exact readText_simple rfl (by decide)
  · subst hr
    exact readText_simple rfl (by decide)
  · subst ht
    exact readText_simple rfl (by decide)
  · exact readText_control hcontrol
  · exact readText_plain hquote hslash (by omega)

/-- The characters of a string are read up to its closing quote. -/
lemma readText_escaped {cs : List Char} (h : cs.length < fuel) :
    readText fuel (cs.flatMap escapeChar ++ '"' :: rest) = some (cs, rest) := by
  induction cs generalizing fuel with
  | nil =>
      obtain ⟨fuel, rfl⟩ := Nat.exists_eq_add_one.mpr h
      rfl
  | cons c cs ih =>
      obtain ⟨fuel, rfl⟩ := Nat.exists_eq_add_one.mpr (Nat.zero_lt_of_lt h)
      rw [List.flatMap_cons, List.append_assoc, readText_escapeChar, ih (by simpa using h)]
      rfl

/-- Every character is written with one character at least. -/
lemma length_le_length_escaped (cs : List Char) : cs.length ≤ (cs.flatMap escapeChar).length := by
  induction cs with
  | nil => rfl
  | cons c cs ih =>
      have hone : 1 ≤ (escapeChar c).length := by
        rw [escapeChar]
        split_ifs <;> simp
      rw [List.flatMap_cons, List.length_append, List.length_cons]
      omega

lemma writeText_append (s : String) (rest : List Char) :
    writeText s ++ rest = '"' :: (s.toList.flatMap escapeChar ++ '"' :: rest) := by
  simp [writeText]

/-- The fuel that the reader gives a string is enough. -/
lemma readText_written (s : String) (rest : List Char) :
    readText (s.toList.flatMap escapeChar ++ '"' :: rest).length.succ
        (s.toList.flatMap escapeChar ++ '"' :: rest) = some (s.toList, rest) := by
  refine readText_escaped ?_
  have hlength := length_le_length_escaped s.toList
  rw [List.length_append]
  omega

end Strings

/-! ### Integers -/

/-- Text that no number goes on with. -/
def Stops (rest : List Char) : Prop :=
  ∀ c ∈ rest.head?, Numeral.isDigit 10 c = false ∧ c ≠ '.' ∧ c ≠ 'e' ∧ c ≠ 'E'

section Integers

variable {rest : List Char}

lemma stops_nil : Stops [] := by simp [Stops]

lemma stops_cons {c : Char} (h : c = ',' ∨ c = ']' ∨ c = '}') : Stops (c :: rest) := by
  intro d hd
  obtain rfl : c = d := by simpa using hd
  rcases h with rfl | rfl | rfl <;> decide

lemma Stops.takeWhile_eq_nil (h : Stops rest) : rest.takeWhile (Numeral.isDigit 10) = [] := by
  cases rest with
  | nil => rfl
  | cons c rest => exact List.takeWhile_cons_of_neg (by simp [(h c rfl).1])

/-- A number starts with a digit. -/
lemma exists_toDigits_eq (n : Nat) :
    ∃ c cs, Nat.toDigits 10 n = c :: cs ∧ Numeral.isDigit 10 c = true := by
  cases hdigits : Nat.toDigits 10 n with
  | nil => exact absurd hdigits Nat.toDigits_ne_nil
  | cons c cs =>
      have hc : c ∈ Nat.toDigits 10 n := hdigits ▸ List.mem_cons_self
      exact ⟨c, cs, rfl, Numeral.isDigit_of_mem_toDigits (by decide) (by decide) c hc⟩

/-- The digits of a number are taken up to what stops it. -/
lemma readDigits_toDigits (h : Stops rest) (n : Nat) :
    readDigits (Nat.toDigits 10 n ++ rest) = some (Nat.toDigits 10 n, rest) := by
  have hall : ∀ c ∈ Nat.toDigits 10 n, Numeral.isDigit 10 c = true :=
    Numeral.isDigit_of_mem_toDigits (by decide) (by decide)
  rw [readDigits, takeWhile_run hall h.takeWhile_eq_nil, dropWhile_run hall h.takeWhile_eq_nil]
  split
  · next hnil => exact absurd hnil Nat.toDigits_ne_nil
  · rfl

lemma readFraction_of_stops (h : Stops rest) : readFraction rest = some ([], rest) := by
  rw [readFraction]
  rintro rest rfl
  exact absurd rfl (h '.' rfl).2.1

lemma readExponent_of_stops (h : Stops rest) : readExponent rest = some (none, rest) := by
  cases rest with
  | nil => rfl
  | cons c rest =>
      obtain ⟨-, -, he, hE⟩ := h c rfl
      simp [readExponent, he, hE]

/-- A number that is written with digits only is an integer, and a sign before it counts unless it
is zero. -/
lemma readUnsigned_toDigits (h : Stops rest) {negative : Bool} {n : Nat}
    (hzero : negative = true → n ≠ 0) :
    readUnsigned negative (Nat.toDigits 10 n ++ rest)
      = some (integer (if negative then -n else n), rest) := by
  have hvalue : Numeral.ofDigits 10 (Nat.toDigits 10 n) = n :=
    Numeral.ofDigits_toDigits (by decide) (by decide) n
  have hlead : ¬ (1 < (Nat.toDigits 10 n).length ∧ (Nat.toDigits 10 n).head? = some '0') := by
    rintro ⟨hlength, hhead⟩
    rcases Nat.eq_zero_or_pos n with rfl | hn
    · simp at hlength
    · exact Numeral.head_toDigits_ne_zero (by decide) hn hhead
  have hsign : ¬ (negative = true ∧ (n : Int) = 0) := by
    rintro ⟨hnegative, hn⟩
    exact hzero hnegative (by omega)
  rw [readUnsigned, readDigits_toDigits h]
  simp only [if_neg hlead, readFraction_of_stops h, readExponent_of_stops h, hvalue]
  rw [if_pos ⟨trivial, trivial, hsign⟩]

/-- An integer is read back, its sign included. -/
lemma readNumber_writeInt (h : Stops rest) (n : Int) :
    readNumber (writeInt n ++ rest) = some (integer n, rest) := by
  rw [writeInt]
  split_ifs with hn
  · rw [List.cons_append, readNumber, readUnsigned_toDigits h (by omega)]
    simp only [if_true]
    rw [show -(n.natAbs : Int) = n by omega]
  · rw [readNumber, readUnsigned_toDigits h (by simp)]
    · simp only [Bool.false_eq_true, if_false]
      rw [show (n.natAbs : Int) = n by omega]
    · obtain ⟨c, cs, hdigits, hc⟩ := exists_toDigits_eq n.natAbs
      rw [hdigits]
      rintro rest' hrest
      obtain rfl := (List.cons.inj hrest).1
      exact absurd hc (by decide)

end Integers

/-! ### Values -/

lemma writeItems_eq_map (items : List Json) : writeItems items = items.map writeChars := by
  induction items with
  | nil => rfl
  | cons item items ih => rw [writeItems, ih, List.map_cons]

lemma writeMembers_eq_map (members : List (String × Json)) :
    writeMembers members
      = members.map fun member => writeText member.1 ++ ':' :: writeChars member.2 := by
  induction members with
  | nil => rfl
  | cons member members ih => rw [writeMembers, ih, List.map_cons]

/-- A text that does not start with a blank is read from its start on. -/
lemma skipBlanks_cons {c : Char} {cs : List Char} (h : isBlank c = false) :
    skipBlanks (c :: cs) = c :: cs :=
  List.dropWhile_cons_of_neg (by simp [h])

/-- The characters that an integer starts with start no other value. -/
lemma exists_writeInt_eq (n : Int) :
    ∃ c cs, writeInt n = c :: cs ∧ isBlank c = false ∧ c ≠ ']' ∧
      c ∉ ['"', '[', '{', 'n', 't', 'f'] := by
  have hdigit : ∀ c, Numeral.isDigit 10 c = true →
      isBlank c = false ∧ c ≠ ']' ∧ c ∉ ['"', '[', '{', 'n', 't', 'f'] := by
    intro c hc
    have hnone : ([' ', '\t', '\n', '\r', ']', '"', '[', '{', 'n', 't', 'f'].all
        fun d => !Numeral.isDigit 10 d) = true := by decide
    have hother : ∀ d ∈ [' ', '\t', '\n', '\r', ']', '"', '[', '{', 'n', 't', 'f'], c ≠ d := by
      rintro d hd rfl
      have hd' := List.all_eq_true.mp hnone c hd
      simp [hc] at hd'
    simp only [List.mem_cons, List.not_mem_nil, or_false, forall_eq_or_imp, forall_eq] at hother
    simp [isBlank, hother]
  rw [writeInt]
  split_ifs
  · exact ⟨'-', _, rfl, by decide⟩
  · obtain ⟨c, cs, hdigits, hc⟩ := exists_toDigits_eq n.natAbs
    exact ⟨c, cs, hdigits, hdigit c hc⟩

/-- A value starts with a character that is neither blank nor a closing bracket. -/
lemma Plain.exists_writeChars_eq {j : Json} (h : Plain j) :
    ∃ c cs, j.writeChars = c :: cs ∧ isBlank c = false ∧ c ≠ ']' := by
  cases h with
  | null => exact ⟨'n', _, rfl, by decide⟩
  | bool value => cases value <;> exact ⟨_, _, rfl, by decide⟩
  | integer n =>
      obtain ⟨c, cs, hchars, hblank, hclose, -⟩ := exists_writeInt_eq n
      exact ⟨c, cs, by rw [writeChars, hchars], hblank, hclose⟩
  | text s => exact ⟨'"', _, by rw [writeChars, writeText, List.cons_append], by decide⟩
  | array _ => exact ⟨'[', _, by rw [writeChars, List.cons_append], by decide⟩
  | object _ => exact ⟨'{', _, by rw [writeChars, List.cons_append], by decide⟩

/-- A value is read off the front of any text that does not go on with a number. Twice its length
is enough fuel. -/
def ReadBack (j : Json) : Prop :=
  ∀ fuel rest, Stops rest → 2 * j.writeChars.length ≤ fuel + 1 →
    readValue (fuel + 1) (j.writeChars ++ rest) = some (j, rest)

section Values

variable {fuel : Nat} {rest : List Char}

/-- What starts like no other value is a number. -/
lemma readValue_number {c : Char} {cs : List Char} (hblank : isBlank c = false)
    (hc : c ∉ ['"', '[', '{', 'n', 't', 'f']) :
    readValue (fuel + 1) (c :: cs) = readNumber (c :: cs) := by
  rw [readValue, skipBlanks_cons hblank]
  split
  case h_7 => rfl
  all_goals
    rename_i hstart
    obtain rfl := (List.cons.inj hstart).1
    exact absurd (by decide) hc

/-- Behind an opening bracket the items are read unless it is closed at once. -/
lemma readValue_items {c : Char} {cs : List Char} (hblank : isBlank c = false) (hclose : c ≠ ']') :
    readValue (fuel + 1) ('[' :: c :: cs)
      = (readItems fuel (c :: cs)).map fun p => (array p.1, p.2) := by
  rw [readValue, skipBlanks_cons (by decide)]
  simp only [skipBlanks_cons hblank]
  split
  · next hstart => exact absurd (List.cons.inj hstart).1 hclose
  · rfl

/-- Behind an opening brace the members are read unless it is closed at once. -/
lemma readValue_members {c : Char} {cs : List Char} (hblank : isBlank c = false)
    (hclose : c ≠ '}') :
    readValue (fuel + 1) ('{' :: c :: cs)
      = (readMembers fuel (c :: cs)).map fun p => (object p.1, p.2) := by
  rw [readValue, skipBlanks_cons (by decide)]
  simp only [skipBlanks_cons hblank]
  split
  · next hstart => exact absurd (List.cons.inj hstart).1 hclose
  · rfl

/-- A string is read up to its closing quote. -/
lemma readBack_text (s : String) : ReadBack (text s) := by
  intro fuel rest _ _
  rw [writeChars, writeText_append, readValue, skipBlanks_cons (by decide)]
  simp only [readText_written, Option.map_some, String.ofList_toList]

/-- An integer is read up to what stops it. -/
lemma readBack_integer (n : Int) : ReadBack (integer n) := by
  intro fuel rest hrest _
  obtain ⟨c, cs, hchars, hblank, -, hc⟩ := exists_writeInt_eq n
  rw [writeChars, hchars, List.cons_append, readValue_number hblank hc, ← List.cons_append,
    ← hchars, readNumber_writeInt hrest]

/-- A word is read as the value that it names. -/
lemma readBack_word {j : Json} (h : j = null ∨ ∃ b, j = bool b) : ReadBack j := by
  intro fuel rest _ _
  rcases h with rfl | ⟨_ | _, rfl⟩
  all_goals simp [writeChars, readValue, skipBlanks, isBlank, afterStart]

/-- Items that are read back are read up to the closing bracket. -/
lemma readItems_written {items : List Json} (hne : items ≠ [])
    (hitems : ∀ item ∈ items, ReadBack item)
    (hfuel : 2 * (commaSeparated (writeItems items)).length ≤ fuel) :
    readItems (fuel + 2) (commaSeparated (writeItems items) ++ ']' :: rest)
      = some (items, rest) := by
  induction items generalizing fuel with
  | nil => exact absurd rfl hne
  | cons item items ih =>
      have hitem := hitems item List.mem_cons_self
      cases items with
      | nil =>
          rw [writeItems, writeItems, commaSeparated] at hfuel ⊢
          rw [readItems, hitem fuel _ (stops_cons (by simp)) (by omega)]
          simp only [skipBlanks_cons (by decide : isBlank ']' = false)]
      | cons next items =>
          have hcut : commaSeparated (writeItems (item :: next :: items))
              = writeChars item ++ ',' :: commaSeparated (writeItems (next :: items)) := rfl
          rw [hcut, List.length_append, List.length_cons] at hfuel
          obtain ⟨fuel, rfl⟩ := Nat.exists_eq_add_one.mpr (show 0 < fuel by omega)
          have htail := ih (by simp) (fun j hj => hitems j (List.mem_cons_of_mem item hj))
            (show 2 * (commaSeparated (writeItems (next :: items))).length ≤ fuel by omega)
          rw [hcut, List.append_assoc, List.cons_append, readItems,
            hitem _ _ (stops_cons (by simp)) (by omega)]
          simp only [skipBlanks_cons (by decide : isBlank ',' = false), htail, Option.map_some]

section Members

variable {key : String} {value : Json} (hvalue : ReadBack value)
  (hfuel : 2 * value.writeChars.length ≤ fuel + 1)

include hvalue hfuel

/-- A member in front of the closing brace is the last one. -/
lemma readMembers_last :
    readMembers (fuel + 2) (writeText key ++ ':' :: writeChars value ++ '}' :: rest)
      = some ([(key, value)], rest) := by
  rw [List.append_assoc, List.cons_append, writeText_append, readMembers,
    skipBlanks_cons (by decide)]
  simp only [readText_written, skipBlanks_cons (by decide : isBlank ':' = false),
    hvalue fuel _ (stops_cons (.inr (.inr rfl))) hfuel,
    skipBlanks_cons (by decide : isBlank '}' = false), String.ofList_toList]

/-- Behind a comma the reader goes on with the other members. -/
lemma readMembers_more :
    readMembers (fuel + 2) (writeText key ++ ':' :: writeChars value ++ ',' :: rest)
      = (readMembers (fuel + 1) rest).map fun p => ((key, value) :: p.1, p.2) := by
  rw [List.append_assoc, List.cons_append, writeText_append, readMembers,
    skipBlanks_cons (by decide)]
  simp only [readText_written, skipBlanks_cons (by decide : isBlank ':' = false),
    hvalue fuel _ (stops_cons (.inl rfl)) hfuel,
    skipBlanks_cons (by decide : isBlank ',' = false), String.ofList_toList]

end Members

/-- Members whose values are read back are read up to the closing brace. -/
lemma readMembers_written {members : List (String × Json)} (hne : members ≠ [])
    (hmembers : ∀ member ∈ members, ReadBack member.2)
    (hfuel : 2 * (commaSeparated (writeMembers members)).length ≤ fuel) :
    readMembers (fuel + 2) (commaSeparated (writeMembers members) ++ '}' :: rest)
      = some (members, rest) := by
  induction members generalizing fuel with
  | nil => exact absurd rfl hne
  | cons member members ih =>
      obtain ⟨key, value⟩ := member
      have hvalue : ReadBack value := hmembers (key, value) List.mem_cons_self
      cases members with
      | nil =>
          have hcut : commaSeparated (writeMembers [(key, value)])
              = writeText key ++ ':' :: writeChars value := rfl
          rw [hcut, List.length_append, List.length_cons] at hfuel
          rw [hcut, readMembers_last hvalue (by omega)]
      | cons next members =>
          have hcut : commaSeparated (writeMembers ((key, value) :: next :: members))
              = (writeText key ++ ':' :: writeChars value)
                ++ ',' :: commaSeparated (writeMembers (next :: members)) := rfl
          rw [hcut, List.length_append, List.length_append, List.length_cons,
            List.length_cons] at hfuel
          obtain ⟨fuel, rfl⟩ := Nat.exists_eq_add_one.mpr (show 0 < fuel by omega)
          have htail := ih (by simp) (fun m hm => hmembers m (List.mem_cons_of_mem _ hm))
            (show 2 * (commaSeparated (writeMembers (next :: members))).length ≤ fuel by omega)
          rw [hcut, List.append_assoc, List.cons_append, readMembers_more hvalue (by omega), htail]
          rfl

/-- An array of values that are read back. -/
lemma readBack_array {items : List Json} (hplain : ∀ item ∈ items, Plain item)
    (hitems : ∀ item ∈ items, ReadBack item) : ReadBack (array items) := by
  intro fuel rest _ hfuel
  have hchars : (array items).writeChars = '[' :: (commaSeparated (writeItems items) ++ [']']) := by
    rw [writeChars, List.cons_append]
  rw [hchars, List.length_cons, List.length_append, List.length_singleton] at hfuel
  rw [hchars, List.cons_append, List.append_assoc, List.singleton_append]
  cases items with
  | nil => rfl
  | cons item items =>
      -- the first item does not start with the closing bracket
      obtain ⟨c, cs, hfirst, hblank, hclose⟩ :=
        (hplain item List.mem_cons_self).exists_writeChars_eq
      obtain ⟨tail, htail⟩ : ∃ tail, commaSeparated (writeItems (item :: items)) = c :: tail := by
        cases items with
        | nil => exact ⟨cs, hfirst⟩
        | cons next items =>
            have hcut : commaSeparated (writeItems (item :: next :: items))
                = writeChars item ++ ',' :: commaSeparated (writeItems (next :: items)) := rfl
            exact ⟨_, by rw [hcut, hfirst, List.cons_append]⟩
      obtain ⟨fuel, rfl⟩ : ∃ n, fuel = n + 2 := ⟨fuel - 2, by omega⟩
      have hread : readItems (fuel + 2) (commaSeparated (writeItems (item :: items)) ++ ']' :: rest)
          = some (item :: items, rest) := readItems_written (by simp) hitems (by omega)
      rw [htail, List.cons_append] at hread ⊢
      rw [readValue_items hblank hclose, hread]
      rfl

/-- An object whose members have values that are read back. -/
lemma readBack_object {members : List (String × Json)}
    (hmembers : ∀ member ∈ members, ReadBack member.2) : ReadBack (object members) := by
  intro fuel rest _ hfuel
  have hchars : (object members).writeChars
      = '{' :: (commaSeparated (writeMembers members) ++ ['}']) := by
    rw [writeChars, List.cons_append]
  rw [hchars, List.length_cons, List.length_append, List.length_singleton] at hfuel
  rw [hchars, List.cons_append, List.append_assoc, List.singleton_append]
  cases members with
  | nil => rfl
  | cons member members =>
      -- the first key starts with a quote
      obtain ⟨tail, htail⟩ :
          ∃ tail, commaSeparated (writeMembers (member :: members)) = '"' :: tail := by
        cases members with
        | nil => exact ⟨_, rfl⟩
        | cons next members => exact ⟨_, rfl⟩
      obtain ⟨fuel, rfl⟩ : ∃ n, fuel = n + 2 := ⟨fuel - 2, by omega⟩
      have hread : readMembers (fuel + 2)
          (commaSeparated (writeMembers (member :: members)) ++ '}' :: rest)
            = some (member :: members, rest) := readMembers_written (by simp) hmembers (by omega)
      rw [htail, List.cons_append] at hread ⊢
      rw [readValue_members (by decide) (by decide), hread]
      rfl

/-- A plain value is read back. -/
lemma Plain.readBack {j : Json} (h : Plain j) : ReadBack j := by
  induction h with
  | null => exact readBack_word (.inl rfl)
  | bool value => exact readBack_word (.inr ⟨value, rfl⟩)
  | integer n => exact readBack_integer n
  | text s => exact readBack_text s
  | array hplain ih => exact readBack_array hplain ih
  | object _ ih => exact readBack_object ih

end Values

/-- **A plain value that is written denotes itself.** -/
theorem parse?_write {j : Json} (h : Plain j) : parse? j.write = some j := by
  have hread := h.readBack (2 * j.writeChars.length + 1) [] stops_nil (by omega)
  rw [List.append_nil] at hread
  rw [parse?, write, String.length_ofList, String.toList_ofList, hread]
  rfl

/-! ### Control characters -/

/-- Text without control characters. -/
def Printable (cs : List Char) : Prop :=
  ∀ c ∈ cs, 0x20 ≤ c.toNat

instance (cs : List Char) : Decidable (Printable cs) :=
  List.decidableBAll _ cs

section Printable

variable {cs ds : List Char}

lemma Printable.cons {c : Char} (hc : 0x20 ≤ c.toNat) (h : Printable cs) : Printable (c :: cs) :=
  List.forall_mem_cons.mpr ⟨hc, h⟩

lemma Printable.append (h : Printable cs) (h' : Printable ds) : Printable (cs ++ ds) := by
  intro c hc
  rcases List.mem_append.mp hc with hc | hc
  · exact h c hc
  · exact h' c hc

/-- Pieces are put together with commas. -/
lemma Printable.commaSeparated {pieces : List (List Char)} (h : ∀ piece ∈ pieces, Printable piece) :
    Printable (commaSeparated pieces) := by
  fun_induction Json.commaSeparated pieces with
  | case1 => exact fun c hc => absurd hc List.not_mem_nil
  | case2 piece => exact h piece List.mem_cons_self
  | case3 piece rest _ ih =>
      have hrest := ih fun p hp => h p (List.mem_cons_of_mem piece hp)
      exact (h piece List.mem_cons_self).append (.cons (by decide) hrest)

/-- What stands behind the backslash is printable, whatever is escaped. -/
lemma printable_escapeChar (c : Char) : Printable (escapeChar c) := by
  have hhex : ∀ n < 16, 0x20 ≤ (hexDigit n).toNat := by decide
  rw [escapeChar]
  split_ifs with _ _ _ _ _ _ _ hcontrol
  any_goals decide
  · have hhigh := hhex (c.toNat / 16) (by omega)
    have hlow := hhex (c.toNat % 16) (by omega)
    have hfront : Printable ['\\', 'u', '0', '0'] := by decide
    exact hfront.append (.cons hhigh (.cons hlow (by decide)))
  · exact .cons (by omega) (by decide)

lemma printable_writeText (s : String) : Printable (writeText s) := by
  rw [writeText, List.cons_append]
  refine .cons (by decide) (.append (fun c hc => ?_) (by decide))
  obtain ⟨d, -, hd⟩ := List.mem_flatMap.mp hc
  exact printable_escapeChar d c hd

lemma printable_writeInt (n : Int) : Printable (writeInt n) := by
  have hdigits : Printable (Nat.toDigits 10 n.natAbs) :=
    Numeral.forall_mem_toDigits (by decide) (by decide)
  rw [writeInt]
  split_ifs
  · exact .cons (by decide) hdigits
  · exact hdigits

/-- No control character is written raw. -/
lemma Plain.printable {j : Json} (h : Plain j) : Printable j.writeChars := by
  induction h with
  | null => decide
  | bool value => cases value <;> decide
  | integer n =>
      rw [writeChars]
      exact printable_writeInt n
  | text s =>
      rw [writeChars]
      exact printable_writeText s
  | @array items _ ih =>
      have hitems : ∀ piece ∈ writeItems items, Printable piece := by
        rw [writeItems_eq_map]
        exact List.forall_mem_map.mpr ih
      rw [writeChars, List.cons_append]
      exact .cons (by decide) (.append (.commaSeparated hitems) (by decide))
  | @object members _ ih =>
      have hmembers : ∀ piece ∈ writeMembers members, Printable piece := by
        rw [writeMembers_eq_map]
        exact List.forall_mem_map.mpr fun member hmember =>
          (printable_writeText member.1).append (.cons (by decide) (ih member hmember))
      rw [writeChars, List.cons_append]
      exact .cons (by decide) (.append (.commaSeparated hmembers) (by decide))

end Printable

end DaemonConsole.Json
