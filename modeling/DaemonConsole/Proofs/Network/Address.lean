/-
Addresses that are printed are read back.

An address of 32 bits is printed as four octets, one of 128 bits as groups of which one run of zeros
may be left out, or as groups with a dotted end. The reader takes the longest piece that it can, so
it takes a printed address off the front of a text exactly if the text behind it does not go on with
it.

* `Reading.dotted_append`: four octets are taken off the front of a text;
* `Reading.Stops`: a text that goes on with neither a group nor an octet;
* `Reading.groups_append`: groups in front of such a text are taken, all of them and nothing else;
* `IpAddr.zeroRun_spec`: what is left out are zeros;
* `IpAddr.readV4_append`, `IpAddr.readV6_append`: the addresses of both families;
* `IpAddr.parse?_print`: the printed text of an address is the address.
-/
import DaemonConsole.Proofs.Text.Numeral
import Mathlib.Algebra.Group.Nat.Defs

namespace DaemonConsole

namespace Reading

variable {rest : List Char}

@[simp] lemma char_self (c : Char) (cs : List Char) : char c (c :: cs) = some cs := by
  simp [char]

/-! ### Octets -/

/-- An octet is taken off the front of a text that does not go on with a digit. -/
lemma octet_append {n : Nat} (h : n < 256) (hrest : rest.takeWhile (Numeral.isDigit 10) = []) :
    octet (Nat.toDigits 10 n ++ rest) = some (n, rest) := by
  have hall : ∀ c ∈ Nat.toDigits 10 n, Numeral.isDigit 10 c = true :=
    Numeral.isDigit_of_mem_toDigits (by decide) (by decide)
  have hthree : (Nat.toDigits 10 n).length ≤ 3 :=
    (Nat.length_toDigits_le_iff (by decide) (by decide)).mpr (by omega)
  have hplain : (Nat.toDigits 10 n).length ≤ 1 ∨ (Nat.toDigits 10 n).head? ≠ some '0' := by
    rcases Nat.eq_zero_or_pos n with rfl | hpos
    · exact .inl (by simp)
    · exact .inr (Numeral.head_toDigits_ne_zero (by decide) hpos)
  rw [octet, takeWhile_run hall hrest, if_pos ⟨hthree, hplain⟩, boundedDigits_append h hrest]

/-- Where no digit stands there is no octet. -/
lemma octet_eq_none (hrest : rest.takeWhile (Numeral.isDigit 10) = []) : octet rest = none := by
  rw [octet, boundedDigits, digits_eq_none hrest]
  simp

/-- Behind an octet stands what is behind the whole run of digits. -/
lemma rest_of_octet {cs : List Char} {n : Nat} (h : octet cs = some (n, rest)) :
    rest = cs.dropWhile (Numeral.isDigit 10) := by
  rw [octet] at h
  split at h
  · rw [boundedDigits, Option.filter_eq_some_iff, digits] at h
    obtain ⟨hdigits, -⟩ := h
    split at hdigits
    · cases hdigits
    · cases hdigits
      rfl
  · cases h

/-- Four octets with points between them. -/
lemma toList_printDotted (n : Nat) : (IpAddr.printDotted n).toList
    = Nat.toDigits 10 (n / 2 ^ 24 % 256) ++ '.' :: (Nat.toDigits 10 (n / 2 ^ 16 % 256)
        ++ '.' :: (Nat.toDigits 10 (n / 2 ^ 8 % 256) ++ '.' :: Nat.toDigits 10 (n % 256))) := by
  simp [IpAddr.printDotted, Nat.shiftRight_eq_div_pow]

/-- Four octets are taken off the front of a text that does not go on with a digit. -/
lemma dotted_append {n : Nat} (h : n < 2 ^ 32)
    (hrest : rest.takeWhile (Numeral.isDigit 10) = []) :
    dotted ((IpAddr.printDotted n).toList ++ rest) = some (n, rest) := by
  have hpoint : ∀ cs, ('.' :: cs).takeWhile (Numeral.isDigit 10) = [] :=
    fun cs => List.takeWhile_cons_of_neg (by decide)
  have hbyte : ∀ m, m % 256 < 256 := fun m => Nat.mod_lt m (by decide)
  have hvalue : ((n / 2 ^ 24 % 256 * 256 + n / 2 ^ 16 % 256) * 256 + n / 2 ^ 8 % 256) * 256
      + n % 256 = n := by omega
  rw [toList_printDotted, dotted]
  simp only [List.append_assoc, List.cons_append, octet_append (hbyte _) (hpoint _),
    octet_append (hbyte _) hrest, char_self, Option.bind_eq_bind, Option.bind_some, hvalue]
  rfl

/-! ### Groups -/

/-- Groups in hexadecimal, each with a colon before it; the first one goes without if it comes
first. -/
def pieces : (first : Bool) → List Nat → List Char
  | _, [] => []
  | true, g :: gs => Nat.toDigits 16 g ++ pieces false gs
  | false, g :: gs => ':' :: (Nat.toDigits 16 g ++ pieces false gs)

lemma toList_printGroups (gs : List Nat) : (IpAddr.printGroups gs).toList = pieces true gs := by
  rw [IpAddr.printGroups]
  cases gs with
  | nil => rfl
  | cons g gs =>
      induction gs generalizing g with
      | nil => simp [IpAddr.printGroup, pieces]
      | cons k gs ih =>
          have hrest := ih k
          rw [List.map_cons] at hrest
          rw [List.map_cons, List.map_cons, String.intercalate_cons_cons, String.toList_append,
            String.toList_append, hrest]
          simp [IpAddr.printGroup, pieces]

/-- A text with which groups and octets in front of it do not go on: it starts neither with a digit
nor with a point, nor with a colon before a digit. -/
structure Stops (rest : List Char) : Prop where
  noDigit : rest.takeWhile (Numeral.isDigit 16) = []
  noPoint : rest.head? ≠ some '.'
  noGroup : ∀ cs, rest = ':' :: cs → cs.takeWhile (Numeral.isDigit 16) = []

lemma stops_nil : Stops [] :=
  ⟨rfl, by simp, by simp⟩

/-- A character that is no digit, no point and no colon stops the reader. -/
lemma stops_cons {c : Char} (hdigit : Numeral.isDigit 16 c = false) (hpoint : c ≠ '.')
    (hcolon : c ≠ ':') (cs : List Char) : Stops (c :: cs) :=
  ⟨List.takeWhile_cons_of_neg (by simp [hdigit]), by simpa using hpoint, fun _ h => by
    cases h
    exact absurd rfl hcolon⟩

/-- Two colons stop the reader, whatever comes behind them. -/
lemma stops_colons (cs : List Char) : Stops (':' :: ':' :: cs) :=
  ⟨List.takeWhile_cons_of_neg (by decide), by simp, fun _ h => by
    cases h
    exact List.takeWhile_cons_of_neg (by decide)⟩

/-- A decimal digit is a hexadecimal one. -/
lemma isDigit_of_isDigit_ten {c : Char} (h : Numeral.isDigit 10 c = true) :
    Numeral.isDigit 16 c = true := by
  obtain ⟨d, hd⟩ := Option.isSome_iff_exists.mp h
  obtain ⟨hvalue, hlt⟩ := Option.filter_eq_some_iff.mp hd
  have hlt : d < 10 := by simpa using hlt
  refine Option.isSome_iff_exists.mpr ⟨d, Option.filter_eq_some_iff.mpr ⟨hvalue, ?_⟩⟩
  simpa using show d < 16 by omega

/-- Where no hexadecimal digit stands there is no decimal one. -/
lemma noDigit_ten (h : rest.takeWhile (Numeral.isDigit 16) = []) :
    rest.takeWhile (Numeral.isDigit 10) = [] := by
  cases rest with
  | nil => rfl
  | cons c cs =>
      by_cases hc : Numeral.isDigit 10 c = true
      · rw [List.takeWhile_cons_of_pos (isDigit_of_isDigit_ten hc)] at h
        cases h
      · exact List.takeWhile_cons_of_neg hc

/-- What a run without points is cut off from does not start with a point. -/
lemma head?_dropWhile_append_ne {p : Char → Bool} {run : List Char} (hrun : '.' ∉ run)
    (hrest : (rest.dropWhile p).head? ≠ some '.') :
    ((run ++ rest).dropWhile p).head? ≠ some '.' := by
  induction run with
  | nil => exact hrest
  | cons c cs ih =>
      rw [List.mem_cons, not_or] at hrun
      by_cases hc : p c = true
      · rw [List.cons_append, List.dropWhile_cons_of_pos hc]
        exact ih hrun.2
      · rw [List.cons_append, List.dropWhile_cons_of_neg hc]
        simpa using Ne.symm hrun.1

/-- A text without a point behind its first octet is not dotted. -/
lemma dotted_eq_none {cs : List Char}
    (h : (cs.dropWhile (Numeral.isDigit 10)).head? ≠ some '.') : dotted cs = none := by
  rw [dotted]
  cases hoctet : octet cs with
  | none => rfl
  | some taken =>
      obtain ⟨n, behind⟩ := taken
      rw [← rest_of_octet hoctet] at h
      have hpoint : char '.' behind = none := by
        cases behind with
        | nil => rfl
        | cons c cs => simpa [char] using h
      simp [hpoint]

/-- A run without points is not dotted if what is behind it starts neither with a digit nor with a
point. -/
lemma dotted_run_eq_none {run : List Char} (hrun : '.' ∉ run)
    (hdigit : rest.takeWhile (Numeral.isDigit 16) = []) (hpoint : rest.head? ≠ some '.') :
    dotted (run ++ rest) = none := by
  refine dotted_eq_none (head?_dropWhile_append_ne hrun ?_)
  have hjoin := List.takeWhile_append_dropWhile (p := Numeral.isDigit 10) (l := rest)
  rw [noDigit_ten hdigit, List.nil_append] at hjoin
  rwa [hjoin]

/-- Groups hold no points. -/
lemma point_not_mem_toDigits (g : Nat) : '.' ∉ Nat.toDigits 16 g := by
  intro hpoint
  have hdigit := Numeral.isDigit_of_mem_toDigits (by decide) (by decide) _ hpoint
  exact absurd hdigit (by decide)

/-- A group is taken off the front of a text that does not go on with a digit. -/
lemma group_append {g : Nat} (h : g < 65536) (hrest : rest.takeWhile (Numeral.isDigit 16) = []) :
    group (Nat.toDigits 16 g ++ rest) = some (g, rest) := by
  have hall : ∀ c ∈ Nat.toDigits 16 g, Numeral.isDigit 16 c = true :=
    Numeral.isDigit_of_mem_toDigits (by decide) (by decide)
  have hfour : (Nat.toDigits 16 g).length ≤ 4 :=
    (Nat.length_toDigits_le_iff (by decide) (by decide)).mpr (by omega)
  rw [group, takeWhile_run hall hrest, if_pos hfour, digits_append (by decide) (by decide) hrest]

/-- Where no digit stands there is no group. -/
lemma group_eq_none (hrest : rest.takeWhile (Numeral.isDigit 16) = []) : group rest = none := by
  rw [group, digits_eq_none hrest]
  simp

/-- Behind a group comes a colon or a text that stops the reader, so neither a digit nor a point. -/
lemma Stops.pieces (hrest : Stops rest) (gs : List Nat) :
    (Reading.pieces false gs ++ rest).takeWhile (Numeral.isDigit 16) = []
      ∧ (Reading.pieces false gs ++ rest).head? ≠ some '.' := by
  cases gs with
  | nil => exact ⟨hrest.noDigit, hrest.noPoint⟩
  | cons g gs => exact ⟨List.takeWhile_cons_of_neg (by decide), by simp [Reading.pieces]⟩

/-- No group is taken off a text that stops the reader. -/
lemma groups_of_stops (hrest : Stops rest) (room : Nat) (first : Bool) :
    groups room first rest = ([], false, rest) := by
  have hdigit : ∀ cs, colon first rest = some cs → cs.takeWhile (Numeral.isDigit 16) = [] := by
    intro cs hcolon
    cases first with
    | true =>
        cases hcolon
        exact hrest.noDigit
    | false =>
        cases rest with
        | nil => cases hcolon
        | cons c tail =>
            by_cases hc : c = ':'
            · subst hc
              rw [colon, if_neg Bool.false_ne_true, char_self] at hcolon
              cases hcolon
              exact hrest.noGroup _ rfl
            · simp [colon, char, hc] at hcolon
  have hdotted : (colon first rest).bind dotted = none := by
    cases hcolon : colon first rest with
    | none => rfl
    | some cs =>
        rw [Option.bind_some, dotted, octet_eq_none (noDigit_ten (hdigit cs hcolon))]
        rfl
  have hgroup : (colon first rest).bind group = none := by
    cases hcolon : colon first rest with
    | none => rfl
    | some cs => exact group_eq_none (hdigit cs hcolon)
  cases room with
  | zero => rfl
  | succ room =>
      rw [groups, hdotted, ite_self, hgroup]

/-- Groups in front of a text that stops the reader are taken, all of them and nothing else. -/
lemma groups_append (hrest : Stops rest) {gs : List Nat} (hgs : ∀ g ∈ gs, g < 65536) {room : Nat}
    (hroom : gs.length ≤ room) (first : Bool) :
    groups room first (pieces first gs ++ rest) = (gs, false, rest) := by
  induction gs generalizing room first with
  | nil =>
      have hnil : pieces first [] = [] := by cases first <;> rfl
      rw [hnil]
      exact groups_of_stops hrest room first
  | cons g gs ih =>
      obtain ⟨room, rfl⟩ : ∃ r, room = r + 1 := ⟨room - 1, by simp at hroom; omega⟩
      have hcolon : colon first (pieces first (g :: gs) ++ rest)
          = some (Nat.toDigits 16 g ++ (pieces false gs ++ rest)) := by
        cases first <;> simp [colon, pieces]
      obtain ⟨hdigit, hpoint⟩ := hrest.pieces gs
      have hdotted : dotted (Nat.toDigits 16 g ++ (pieces false gs ++ rest)) = none :=
        dotted_run_eq_none (point_not_mem_toDigits g) hdigit hpoint
      have hgroup : group (Nat.toDigits 16 g ++ (pieces false gs ++ rest))
          = some (g, pieces false gs ++ rest) := group_append (hgs g List.mem_cons_self) hdigit
      have htail := ih (fun k hk => hgs k (List.mem_cons_of_mem g hk))
        (Nat.le_of_succ_le_succ hroom) false
      rw [groups, hcolon, Option.bind_some, Option.bind_some, hdotted, ite_self, hgroup]
      simp only [htail]

/-- Groups in front of a text that stops the reader are not dotted. -/
lemma dotted_pieces_eq_none (hrest : Stops rest) (gs : List Nat) :
    dotted (pieces true gs ++ rest) = none := by
  cases gs with
  | nil => exact dotted_run_eq_none List.not_mem_nil hrest.noDigit hrest.noPoint
  | cons g gs =>
      obtain ⟨hdigit, hpoint⟩ := hrest.pieces gs
      rw [pieces, List.append_assoc]
      exact dotted_run_eq_none (point_not_mem_toDigits g) hdigit hpoint

end Reading

/-! ### The words of addresses -/

/-- The groups of a word make it up. -/
lemma wordOfGroups_groupsOfWord (bits : BitVec 128) : wordOfGroups (groupsOfWord bits) = bits := by
  have hbits := bits.isLt
  refine BitVec.eq_of_toNat_eq ?_
  rw [wordOfGroups, BitVec.toNat_ofNat]
  simp only [groupsOfWord, List.map_cons, List.map_nil, List.foldl_cons, List.foldl_nil,
    Nat.shiftRight_eq_div_pow]
  omega

namespace IpAddr

/-! ### The run of zeros that is left out -/

/-- At the place of the run there are at least as many zeros. -/
lemma zeroRun_le (gs : List Nat) :
    (zeroRun gs).2 ≤ ((gs.drop (zeroRun gs).1).takeWhile (· == 0)).length := by
  rw [zeroRun]
  refine List.foldlRecOn (List.range gs.length) _
    (motive := fun best : Nat × Nat => best.2 ≤ ((gs.drop best.1).takeWhile (· == 0)).length)
    (Nat.zero_le _) fun best hbest i _ => ?_
  dsimp only
  split
  · exact Nat.le_refl _
  · exact hbest

/-- What is left out are zeros: they stand between the groups before the run and those behind it. -/
lemma zeroRun_spec (gs : List Nat) :
    gs = gs.take (zeroRun gs).1 ++ List.replicate (zeroRun gs).2 0
      ++ gs.drop ((zeroRun gs).1 + (zeroRun gs).2) := by
  have hrun : (gs.drop (zeroRun gs).1).take (zeroRun gs).2 = List.replicate (zeroRun gs).2 0 := by
    have hprefix := List.takeWhile_prefix (l := gs.drop (zeroRun gs).1) (· == 0)
    have htake := List.prefix_iff_eq_take.mp hprefix
    refine List.eq_replicate_iff.mpr ⟨?_, fun g hg => ?_⟩
    · have hlength := hprefix.length_le
      rw [List.length_take]
      exact Nat.min_eq_left (Nat.le_trans (zeroRun_le gs) hlength)
    · have hmem : g ∈ (gs.drop (zeroRun gs).1).takeWhile (· == 0) := by
        rw [htake]
        exact List.take_subset_take_left _ (zeroRun_le gs) hg
      have hzero := List.mem_takeWhile_imp hmem
      exact eq_of_beq hzero
  calc gs
      = gs.take (zeroRun gs).1 ++ gs.drop (zeroRun gs).1 := (List.take_append_drop _ _).symm
    _ = gs.take (zeroRun gs).1 ++ ((gs.drop (zeroRun gs).1).take (zeroRun gs).2
          ++ (gs.drop (zeroRun gs).1).drop (zeroRun gs).2) := by
        rw [List.take_append_drop (zeroRun gs).2 (gs.drop (zeroRun gs).1)]
    _ = _ := by rw [hrun, List.drop_drop, List.append_assoc]

/-! ### Printed addresses in front of a text -/

open Reading (Stops pieces)

variable {rest : List Char}

/-- Four printed octets are taken off the front of a text that does not go on with a digit. -/
lemma readV4_append (bits : BitVec 32) (hrest : rest.takeWhile (Numeral.isDigit 10) = []) :
    readV4 ((printDotted bits.toNat).toList ++ rest) = some (bits, rest) := by
  rw [readV4, Reading.dotted_append bits.isLt hrest]
  simp

/-- The groups of a word are groups. -/
lemma lt_of_mem_groupsOfWord {bits : BitVec 128} {g : Nat} (h : g ∈ groupsOfWord bits) :
    g < 65536 := by
  obtain ⟨i, -, rfl⟩ := List.mem_map.mp h
  exact Nat.mod_lt _ (by decide)

/-- Printed groups of which a run of zeros is left out are taken off the front of a text that stops
the reader. -/
lemma eightGroups_gap (hrest : Stops rest) {gs : List Nat} (hgs : ∀ g ∈ gs, g < 65536)
    {front back : List Nat} {length : Nat} (hsplit : gs = front ++ List.replicate length 0 ++ back)
    (height : gs.length = 8) (hlength : 1 < length) :
    Reading.eightGroups (pieces true front ++ ':' :: ':' :: (pieces true back ++ rest))
      = some (gs, rest) := by
  have hcount : front.length + length + back.length = 8 := by
    rw [← height, hsplit]
    simp [Nat.add_assoc]
  have hfront :
      Reading.groups 8 true (pieces true front ++ ':' :: ':' :: (pieces true back ++ rest))
        = (front, false, ':' :: ':' :: (pieces true back ++ rest)) :=
    Reading.groups_append (Reading.stops_colons _) (fun g hg => hgs g (by simp [hsplit, hg]))
      (by omega) true
  have hback : Reading.groups (7 - front.length) true (pieces true back ++ rest)
      = (back, false, rest) :=
    Reading.groups_append hrest (fun g hg => hgs g (by simp [hsplit, hg])) (by omega) true
  have hshort : front.length ≠ 8 := by omega
  have hgap : 8 - front.length - back.length = length := by omega
  rw [Reading.eightGroups, hfront]
  simp only [hshort, if_false, Bool.false_eq_true, hback, hgap, ← hsplit]

/-- Eight printed groups are taken off the front of a text that stops the reader. -/
lemma eightGroups_whole (hrest : Stops rest) {gs : List Nat} (hgs : ∀ g ∈ gs, g < 65536)
    (height : gs.length = 8) :
    Reading.eightGroups (pieces true gs ++ rest) = some (gs, rest) := by
  have hall := Reading.groups_append hrest hgs (Nat.le_of_eq height) true
  rw [Reading.eightGroups, hall]
  simp [height]

/-- So are eight groups of which the last two are printed dotted. -/
lemma eightGroups_mapped {n : Nat} (h : n < 2 ^ 32)
    (hrest : rest.takeWhile (Numeral.isDigit 10) = []) :
    Reading.eightGroups ("::ffff:".toList ++ ((printDotted n).toList ++ rest))
      = some ([0, 0, 0, 0, 0, 0xFFFF, n / 65536, n % 65536], rest) := by
  have hcolon : ∀ cs, (':' :: cs).takeWhile (Numeral.isDigit 16) = [] :=
    fun cs => List.takeWhile_cons_of_neg (by decide)
  -- the group before the dotted end
  have hmark : "ffff".toList = Nat.toDigits 16 0xFFFF := by decide
  have hgroup : Reading.group ("ffff".toList ++ ':' :: ((printDotted n).toList ++ rest))
      = some (0xFFFF, ':' :: ((printDotted n).toList ++ rest)) := by
    rw [hmark]
    exact Reading.group_append (by decide) (hcolon _)
  have hmarked : Reading.dotted ("ffff".toList ++ ':' :: ((printDotted n).toList ++ rest)) = none :=
    Reading.dotted_run_eq_none (by decide) (hcolon _) (by simp)
  have hdotted : Reading.groups 6 false (':' :: ((printDotted n).toList ++ rest))
      = ([n / 65536, n % 65536], true, rest) := by
    simp [Reading.groups, Reading.colon, Reading.dotted_append h hrest]
  have htail : Reading.groups 7 true ("ffff".toList ++ ':' :: ((printDotted n).toList ++ rest))
      = ([0xFFFF, n / 65536, n % 65536], true, rest) := by
    rw [Reading.groups]
    simp only [Reading.colon, if_true, Option.bind_some, hmarked, ite_self, hgroup, hdotted]
  have hfront := Reading.groups_of_stops
    (Reading.stops_colons ("ffff".toList ++ ':' :: ((printDotted n).toList ++ rest))) 8 true
  have htext : ∀ cs, "::ffff:".toList ++ cs = ':' :: ':' :: ("ffff".toList ++ ':' :: cs) :=
    fun _ => rfl
  rw [Reading.eightGroups, htext, hfront]
  simp only [List.length_nil, Nat.sub_zero, htail]
  rfl

/-- An address of 128 bits is taken off the front of a text that stops the reader. -/
lemma readV6_append (bits : BitVec 128) (hrest : Stops rest) :
    readV6 ((printV6 bits).toList ++ rest) = some (bits, rest) := by
  have hgs : ∀ g ∈ groupsOfWord bits, g < 65536 := fun g => lt_of_mem_groupsOfWord
  suffices hgroups : Reading.eightGroups ((printV6 bits).toList ++ rest)
      = some (groupsOfWord bits, rest) by
    rw [readV6, hgroups, Option.map_some]
    simp only [wordOfGroups_groupsOfWord]
  rw [printV6]
  split
  · next hmapped =>
      have hword : groupsOfWord bits = (groupsOfWord bits).take 6
          ++ [bits.toNat % UInt32.size / 65536, bits.toNat % UInt32.size % 65536] := by
        simp [groupsOfWord, UInt32.size, Nat.shiftRight_eq_div_pow]
        omega
      rw [String.toList_append, List.append_assoc, hword, hmapped]
      exact eightGroups_mapped (Nat.mod_lt _ (by decide)) (Reading.noDigit_ten hrest.noDigit)
  · split
    next start length hrun =>
    have hsplit := zeroRun_spec (groupsOfWord bits)
    rw [hrun] at hsplit
    split
    · next hlength =>
        rw [String.toList_append, String.toList_append, Reading.toList_printGroups,
          Reading.toList_printGroups, List.append_assoc, List.append_assoc]
        exact eightGroups_gap hrest hgs hsplit rfl hlength
    · rw [Reading.toList_printGroups]
      exact eightGroups_whole hrest hgs rfl

/-- A printed address of 128 bits is not dotted, whatever of it is left out. -/
lemma readV4_printV6 (bits : BitVec 128) (hrest : Stops rest) :
    readV4 ((printV6 bits).toList ++ rest) = none := by
  have hdotted : Reading.dotted ((printV6 bits).toList ++ rest) = none := by
    rw [printV6]
    split
    · rw [String.toList_append, List.append_assoc]
      exact Reading.dotted_pieces_eq_none (Reading.stops_colons ("ffff:".toList ++ _)) []
    · split
      split
      · rw [String.toList_append, String.toList_append, Reading.toList_printGroups,
          Reading.toList_printGroups, List.append_assoc, List.append_assoc]
        exact Reading.dotted_pieces_eq_none (Reading.stops_colons _) _
      · rw [Reading.toList_printGroups]
        exact Reading.dotted_pieces_eq_none hrest _
  rw [readV4, hdotted, Option.map_none]

/-- The printed text of an address is the address. -/
lemma parse?_print (a : IpAddr) : parse? a.print = some a := by
  have hread : read a.print.toList = some (a, []) := by
    rw [← List.append_nil a.print.toList]
    cases a with
    | v4 bits => rw [read, print, readV4_append bits rfl]
    | v6 bits =>
        rw [read, print, readV4_printV6 bits Reading.stops_nil,
          readV6_append bits Reading.stops_nil]
        rfl
  rw [parse?, hread]

end IpAddr

end DaemonConsole
