/-
The shortest decimal that stands for a 64-bit binary number.

A decimal stands for the binary number nearest to it. Of the decimals that stand for one number the
shortest are those with the fewest digits, and of these the nearest to the number is chosen, an even
last digit in a tie.

* `Binary.shortest`: that choice, by comparing exact integers;
* `Decimal.print`: the text of the number that a decimal is read as: positional from `1e-5` up to
  `1e16` with at least one digit on each side of the point, and outside with an exponent, whose sign
  is always written.
-/
import DaemonConsole.Decimal.Value

namespace DaemonConsole

/-- A finite binary number `mantissa · 2^exponent`; `narrowBelow` tells that the number before it is
half as far away as the number after it. -/
structure Binary where
  mantissa : Nat
  exponent : Int
  narrowBelow : Bool
  deriving DecidableEq, Repr

namespace Binary

/-- The finite number with the given bits, its sign left out. -/
def ofBits (bits : UInt64) : Binary :=
  let biased : Nat := bits.toNat >>> 52 % 0x800
  let fraction : Nat := bits.toNat % 0x10000000000000
  if biased = 0 then ⟨fraction, -1074, false⟩
  else ⟨0x10000000000000 + fraction, (biased : Int) - 1075, fraction == 0 && 1 < biased⟩

/-- Whether `digits · 10^scale` lies among the reals that round to the number; the two ends round to
the even mantissa. -/
def standsFor (x : Binary) (digits : Nat) (scale : Int) : Bool :=
  let low := if x.narrowBelow then 4 * x.mantissa - 1 else 4 * x.mantissa - 2
  let high := 4 * x.mantissa + 2
  let even := x.mantissa % 2 == 0
  let fromLow := Decimal.compareScaled digits scale low (x.exponent - 2)
  let fromHigh := Decimal.compareScaled digits scale high (x.exponent - 2)
  (fromLow == .gt || (even && fromLow == .eq)) && (fromHigh == .lt || (even && fromHigh == .eq))

/-- The least `k` with the number below `10^k`, found from a start that is not above it. -/
def scaleFrom (x : Binary) : (fuel : Nat) → Int → Int
  | 0, k => k
  | fuel + 1, k =>
    if Decimal.compareScaled 1 k x.mantissa x.exponent == .gt then k else scaleFrom x fuel (k + 1)

/-- The number of whole steps of `10^scale` in the number. -/
def stepsBelow (x : Binary) (scale : Int) : Nat :=
  (x.mantissa <<< x.exponent.toNat * Decimal.tenPow (-scale).toNat)
    / (Decimal.tenPow scale.toNat <<< (-x.exponent).toNat)

/-- The digits on the grid of `10^scale` that stand for the number, the nearer of two. -/
def onGrid? (x : Binary) (scale : Int) : Option Nat :=
  let below := x.stepsBelow scale
  match x.standsFor below scale, x.standsFor (below + 1) scale with
  | true, true =>
    match Decimal.compareScaled (2 * below + 1) scale (2 * x.mantissa) x.exponent with
    | .gt => some below
    | .lt => some (below + 1)
    | .eq => some (if below % 2 = 0 then below else below + 1)
  | true, false => some below
  | false, true => some (below + 1)
  | false, false => none

/-- Searches the grids from coarse to fine. -/
def search (x : Binary) (k : Int) : (count : Nat) → (digits : Nat) → Nat × Int
  | 0, _ => (x.stepsBelow (k - 17), k - 17)
  | count + 1, digits =>
    match x.onGrid? (k - digits) with
    | some n => (n, k - digits)
    | none => search x k count (digits + 1)

/-- The digits and the scale of the shortest decimal that stands for a number other than zero. -/
def shortest (x : Binary) : Nat × Int :=
  let estimate : Int := ((Nat.log2 x.mantissa + x.exponent) * 30103) / 100000 - 1
  x.search (x.scaleFrom 4 estimate) 17 1

end Binary

namespace Decimal

/-- The digits without trailing zeros, and how many zeros were left out. -/
def stripZeros (digits : List Char) : List Char × Nat :=
  let kept := (digits.reverse.dropWhile (· == '0')).reverse
  (kept, digits.length - kept.length)

/-- Lays out `0.digits · 10^point`. -/
def layOut (digits : List Char) (point : Int) : String :=
  let n := digits.length
  if n ≤ point ∧ point ≤ 16 then
    String.ofList (digits ++ List.replicate (point.toNat - n) '0') ++ ".0"
  else if 0 < point ∧ point ≤ 16 then
    String.ofList (digits.take point.toNat ++ '.' :: digits.drop point.toNat)
  else if -5 < point ∧ point ≤ 0 then
    String.ofList ('0' :: '.' :: List.replicate (-point).toNat '0' ++ digits)
  else
    let fraction := if n = 1 then [] else '.' :: digits.drop 1
    let sign := if point < 1 then "-" else "+"
    String.ofList (digits.take 1 ++ fraction) ++ "e" ++ sign ++ toString (point - 1).natAbs

/-- The text of the binary number that a decimal is read as. -/
def print (d : Decimal) : String :=
  let sign := if d.negative then "-" else ""
  let x := Binary.ofBits d.magnitude.toBits
  if x.mantissa = 0 then sign ++ "0.0"
  else
    let (n, scale) := x.shortest
    let (digits, zeros) := stripZeros (Nat.toDigits 10 n)
    sign ++ layOut digits (digits.length + zeros + scale)

end Decimal

end DaemonConsole
