/-
Decimal numbers with an exponent.

* `Decimal.ofDigits`: a decimal from its written digits, of which it keeps as many as 64 bits hold;
* `Decimal.overflows`: whether the exact value is beyond the largest 64-bit binary number.
-/
namespace DaemonConsole

/-- A decimal number `±coefficient · 10^exponent`. -/
structure Decimal where
  negative : Bool
  coefficient : Nat
  exponent : Int
  deriving DecidableEq, Repr

namespace Decimal

/-- A power of ten. -/
def tenPow (n : Nat) : Nat :=
  Nat.pow 10 n

/-- Compares `a · 10^i` with `n · 2^j`. -/
def compareScaled (a : Nat) (i : Int) (n : Nat) (j : Int) : Ordering :=
  compare ((a * tenPow i.toNat) <<< (-j).toNat) (n <<< j.toNat * tenPow (-i).toNat)

/-- The number of decimal digits. -/
def digitCount (n : Nat) : Nat :=
  (Nat.toDigits 10 n).length

/-- Appends digits to a number one by one while it fits into 64 bits; gives the number and how many
digits were taken. -/
def takeDigits (n : Nat) : List Char → Nat × Nat
  | [] => (n, 0)
  | c :: cs =>
    let next := 10 * n + (c.toNat - 48)
    if next < UInt64.size then
      let (last, count) := takeDigits next cs
      (last, count + 1)
    else (n, 0)

/-- The decimal with the given digits before and behind the point. The coefficient keeps the digits
that fit into 64 bits: of the whole digits the others count for the magnitude only, and of the
fraction they are left out. -/
def ofDigits (negative : Bool) (whole fraction : List Char) (exponent : Int) : Decimal :=
  let (n, kept) := takeDigits 0 whole
  let (coefficient, behind) := takeDigits n fraction
  ⟨negative, coefficient, exponent + (whole.length - kept : Nat) - behind⟩

/-- Whether the absolute value is too large for a 64-bit binary number, so that it would round to
infinity: it is at least half a step above the largest finite one. -/
def overflows (d : Decimal) : Bool :=
  let magnitude := digitCount d.coefficient + d.exponent
  if d.coefficient = 0 ∨ magnitude < 300 then false
  else if 320 < magnitude then true
  else compareScaled d.coefficient d.exponent 0x3FFFFFFFFFFFFF 970 != .lt

end Decimal

end DaemonConsole
