/-
The 64-bit binary number that a decimal is read as.

The coefficient is rounded to a binary number and then scaled by a power of ten, and each of the two
steps rounds on its own; so the result may lie next to the number nearest to the decimal. A power of
ten that no binary number holds is divided out in parts.
-/
import DaemonConsole.Decimal.Basic

namespace DaemonConsole.Decimal

/-- The greatest power of ten among the finite binary numbers. -/
def greatestPower : Nat := 308

/-- The binary number nearest to a power of ten. -/
def powerOfTen (exponent : Nat) : Float :=
  Float.ofScientific 1 false exponent

/-- Scales a number by a power of ten. Zero stays what it is, and whatever else grows beyond every
power is infinite; three parts are enough to bring any coefficient down to zero. -/
def scale (x : Float) (exponent : Int) : (parts : Nat) → Float
  | 0 => 0
  | parts + 1 =>
    if exponent.natAbs ≤ greatestPower then
      if 0 ≤ exponent then x * powerOfTen exponent.natAbs else x / powerOfTen exponent.natAbs
    else if x == 0 then x
    else if 0 ≤ exponent then x / 0
    else scale (x / powerOfTen greatestPower) (exponent + greatestPower) parts

/-- The absolute value of a decimal as a binary number. -/
def magnitude (d : Decimal) : Float :=
  scale (Float.ofNat d.coefficient) d.exponent 3

end DaemonConsole.Decimal
