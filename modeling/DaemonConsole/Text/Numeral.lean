/-
Unsigned decimal numerals.

A numeral is an optional plus sign and at least one ASCII digit; leading zeros are allowed and the
value has to fit the number type it is read for.
-/
namespace DaemonConsole.Numeral

/-- The value of an ASCII digit in a base of at most sixteen. -/
def digitValue? (base : Nat) (c : Char) : Option Nat :=
  let value? : Option Nat :=
    if '0' ≤ c ∧ c ≤ '9' then some (c.toNat - 48)
    else if 'a' ≤ c ∧ c ≤ 'f' then some (c.toNat - 87)
    else if 'A' ≤ c ∧ c ≤ 'F' then some (c.toNat - 55)
    else none
  value?.filter (· < base)

/-- Whether a character is a digit of the base. -/
def isDigit (base : Nat) (c : Char) : Bool :=
  (digitValue? base c).isSome

/-- The number that a list of digits denotes, the most significant digit first. -/
def ofDigits (base : Nat) (cs : List Char) : Nat :=
  cs.foldl (fun n c => base * n + (digitValue? base c).getD 0) 0

/-- Reads a run of decimal digits with an optional plus sign before it. -/
def readChars : List Char → Option Nat
  | '+' :: cs => if cs ≠ [] ∧ cs.all (isDigit 10) then some (ofDigits 10 cs) else none
  | cs => if cs ≠ [] ∧ cs.all (isDigit 10) then some (ofDigits 10 cs) else none

/-- Reads a numeral whose value is below `bound`. -/
def read? (bound : Nat) (s : String) : Option Nat :=
  (readChars s.toList).filter (· < bound)

/-- Reads a 16-bit number. -/
def readUInt16? (s : String) : Option UInt16 :=
  (read? UInt16.size s).map UInt16.ofNat

/-- Reads a 32-bit number. -/
def readUInt32? (s : String) : Option UInt32 :=
  (read? UInt32.size s).map UInt32.ofNat

end DaemonConsole.Numeral
