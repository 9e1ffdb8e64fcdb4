/-
Subnets and endpoints that are printed are read back, as one word each.

* `IpAddr.isWord_print`, `Subnet.isWord_print`, `Endpoint.isWord_print`: printed texts hold no
  blank;
* `Subnet.parse?_print`: the printed text of a subnet is the subnet;
* `Endpoint.parse?_print`: the printed text of an endpoint is the endpoint, its scope included.
-/
import DaemonConsole.Network.Endpoint
import DaemonConsole.Network.Subnet
import DaemonConsole.Proofs.Network.Address
import DaemonConsole.Proofs.Network.Spelling
import DaemonConsole.Proofs.Text.Words

namespace DaemonConsole

/-! ### What printed texts are made of -/

/-- A numeral is one word. -/
lemma Numeral.isWord_toString (n : Nat) : Text.Word (toString n) := by
  refine ⟨?_, by simp⟩
  rw [Nat.toString_eq_repr, Nat.toList_repr]
  exact forall_mem_toDigits (by decide) (by decide)

namespace IpAddr

/-- The characters of printed addresses are neither blank nor slashes. -/
def Plain (c : Char) : Prop :=
  Text.isBlank c = false ∧ c ≠ '/'

instance (c : Char) : Decidable (Plain c) := inferInstanceAs (Decidable (_ ∧ _))

/-- The characters of a given text are plain if they all are found to be. -/
lemma plain_of_all {s : String} (h : (s.toList.all fun c => decide (Plain c)) = true) :
    ∀ c ∈ s.toList, Plain c :=
  fun c hc => of_decide_eq_true (List.all_eq_true.mp h c hc)

lemma plain_printDotted (n : Nat) : ∀ c ∈ (printDotted n).toList, Plain c := by
  have hdigits : ∀ m, ∀ c ∈ Nat.toDigits 10 m, Plain c :=
    fun m => Numeral.forall_mem_toDigits (by decide) (by decide)
  have hpoint : Plain '.' := by decide
  intro c hc
  simp only [Reading.toList_printDotted, List.mem_append, List.mem_cons] at hc
  rcases hc with hc | rfl | hc | rfl | hc | rfl | hc
  · exact hdigits _ c hc
  · exact hpoint
  · exact hdigits _ c hc
  · exact hpoint
  · exact hdigits _ c hc
  · exact hpoint
  · exact hdigits _ c hc

lemma plain_printGroups (gs : List Nat) : ∀ c ∈ (printGroups gs).toList, Plain c := by
  have hdigits : ∀ m, ∀ c ∈ Nat.toDigits 16 m, Plain c :=
    fun m => Numeral.forall_mem_toDigits (by decide) (by decide)
  rw [Reading.toList_printGroups]
  generalize true = first
  induction gs generalizing first with
  | nil => cases first <;> simp [Reading.pieces]
  | cons g gs ih =>
      intro c hc
      have hcolon : c = ':' ∨ c ∈ Nat.toDigits 16 g ∨ c ∈ Reading.pieces false gs := by
        cases first <;> simp_all [Reading.pieces]
      rcases hcolon with rfl | hc | hc
      · decide
      · exact hdigits g c hc
      · exact ih false c hc

lemma plain_printV6 (bits : BitVec 128) : ∀ c ∈ (printV6 bits).toList, Plain c := by
  intro c hc
  rw [printV6] at hc
  split at hc
  · rcases List.mem_append.mp (String.toList_append ▸ hc) with hc | hc
    · exact plain_of_all (by decide) c hc
    · exact plain_printDotted _ c hc
  · split at hc
    split at hc
    · rw [String.toList_append, String.toList_append, List.mem_append, List.mem_append] at hc
      rcases hc with (hc | hc) | hc
      · exact plain_printGroups _ c hc
      · exact plain_of_all (by decide) c hc
      · exact plain_printGroups _ c hc
    · exact plain_printGroups _ c hc

lemma plain_print (a : IpAddr) : ∀ c ∈ a.print.toList, Plain c := by
  cases a with
  | v4 bits => exact plain_printDotted _
  | v6 bits => exact plain_printV6 _

/-- A text that reads as an address is not empty. -/
lemma print_ne_empty (a : IpAddr) : a.print ≠ "" := by
  intro hempty
  have hread := parse?_print a
  rw [hempty] at hread
  exact absurd hread (by simp [show parse? "" = none by decide])

/-- A printed address is one word. -/
lemma isWord_print (a : IpAddr) : Text.Word a.print :=
  ⟨fun c hc => (plain_print a c hc).1, print_ne_empty a⟩

end IpAddr

/-! ### Subnets -/

namespace Subnet

lemma isWord_print (p : Subnet) : Text.Word p.print :=
  ((IpAddr.isWord_print p.address).append (.of_all (by decide) (by decide))).append
    (Numeral.isWord_toString p.length)

/-- **Subnets**: the printed text of a subnet is the subnet. -/
lemma parse?_print (p : Subnet) : parse? p.print = some p := by
  have hslash : '/' ∉ p.address.print.toList := fun hmem => (IpAddr.plain_print _ _ hmem).2 rfl
  have hlength : Numeral.read? UInt8.size (toString p.length) = some p.length :=
    Numeral.read?_toString p.length_lt
  rw [print, parse?_append hslash, IpAddr.parse?_print, Option.bind_some, hlength, Option.bind_some,
    dif_pos p.length_le]

end Subnet

/-! ### Endpoints -/

namespace Endpoint

variable {rest : List Char}

/-- A printed port behind a colon is taken off the front of a text that does not go on with a
digit. -/
lemma readPort_append (port : Port) (hrest : rest.takeWhile (Numeral.isDigit 10) = []) :
    readPort (':' :: (Nat.toDigits 10 port.toNat ++ rest)) = some (port, rest) := by
  have hport : Reading.boundedDigits UInt16.size (Nat.toDigits 10 port.toNat ++ rest)
      = some (port.toNat, rest) := Reading.boundedDigits_append port.toNat_lt hrest
  simp [readPort, hport]

/-- How a scope is printed: a scope of zero is left out. -/
def printScope (scope : UInt32) : String :=
  if scope = 0 then "" else "%" ++ toString scope.toNat

lemma print_v6 (address : BitVec 128) (scope : UInt32) (port : Port) :
    (v6 address scope port).print.toList = '[' :: ((IpAddr.printV6 address).toList
      ++ ((printScope scope).toList ++ ']' :: ':' :: Nat.toDigits 10 port.toNat)) := by
  simp [print, printScope]

/-- A printed scope is taken off the front of a text that starts with a bracket. -/
lemma readScope_append (scope : UInt32) (cs : List Char) :
    readScope ((printScope scope).toList ++ ']' :: cs) = (scope, ']' :: cs) := by
  rw [printScope]
  split
  · next hzero =>
      rw [hzero]
      rfl
  · have hstop : (']' :: cs).takeWhile (Numeral.isDigit 10) = [] :=
      List.takeWhile_cons_of_neg (by decide)
    have hscope : Reading.boundedDigits UInt32.size (Nat.toDigits 10 scope.toNat ++ ']' :: cs)
        = some (scope.toNat, ']' :: cs) := Reading.boundedDigits_append scope.toNat_lt hstop
    have hsign : "%".toList = ['%'] := rfl
    rw [String.toList_append, hsign]
    simp [readScope, hscope]

/-- An address stops in front of a printed scope and a bracket. -/
lemma stops_printScope (scope : UInt32) (cs : List Char) :
    Reading.Stops ((printScope scope).toList ++ ']' :: cs) := by
  rw [printScope]
  split
  · exact Reading.stops_cons (by decide) (by decide) (by decide) cs
  · rw [String.toList_append]
    exact Reading.stops_cons (by decide) (by decide) (by decide) _

/-- **Endpoints**: the printed text of an endpoint is the endpoint, its scope included. -/
lemma parse?_print (e : Endpoint) : parse? e.print = some e := by
  have hport : ∀ port : Port, readPort (':' :: Nat.toDigits 10 port.toNat) = some (port, []) :=
    fun port => by simpa using readPort_append port (List.takeWhile_nil)
  cases e with
  | v4 address port =>
      have hstop : (':' :: Nat.toDigits 10 port.toNat).takeWhile (Numeral.isDigit 10) = [] :=
        List.takeWhile_cons_of_neg (by decide)
      have htext : (v4 address port).print.toList
          = (IpAddr.printDotted address.toNat).toList ++ ':' :: Nat.toDigits 10 port.toNat := by
        simp [print]
      have hread : readV4 (v4 address port).print.toList = some (v4 address port, []) := by
        simp [readV4, htext, IpAddr.readV4_append address hstop, hport]
      rw [parse?, hread]
      rfl
  | v6 address scope port =>
      have hbracket : readV4 (v6 address scope port).print.toList = none := by
        have hdotted : ∀ cs, Reading.dotted ('[' :: cs) = none := fun cs =>
          Reading.dotted_eq_none (by simp [show Numeral.isDigit 10 '[' = false by decide])
        rw [print_v6, readV4, IpAddr.readV4, hdotted]
        rfl
      have hread :
          readV6 (v6 address scope port).print.toList = some (v6 address scope port, []) := by
        simp [readV6, print_v6, IpAddr.readV6_append address (stops_printScope scope _),
          readScope_append, hport]
      rw [parse?, hbracket, Option.none_or, hread]

/-- A printed endpoint is one word. -/
lemma isWord_print (e : Endpoint) : Text.Word e.print := by
  cases e with
  | v4 address port =>
      have haddress : Text.Word (IpAddr.printDotted address.toNat) :=
        IpAddr.isWord_print (.v4 address)
      exact (haddress.append (.of_all (by decide) (by decide))).append (Numeral.isWord_toString _)
  | v6 address scope port =>
      have haddress : Text.Word (IpAddr.printV6 address) := IpAddr.isWord_print (.v6 address)
      have hopen : Text.Word ("[" ++ IpAddr.printV6 address) :=
        Text.Word.append (.of_all (by decide) (by decide)) haddress
      have hscope : Text.Word ("[" ++ IpAddr.printV6 address ++ printScope scope) := by
        rw [printScope]
        split
        · rwa [String.append_empty]
        · have hpercent : Text.Word "%" := .of_all (by decide) (by decide)
          exact hopen.append (hpercent.append (Numeral.isWord_toString _))
      exact (hscope.append (.of_all (by decide) (by decide))).append (Numeral.isWord_toString _)

end Endpoint

end DaemonConsole
