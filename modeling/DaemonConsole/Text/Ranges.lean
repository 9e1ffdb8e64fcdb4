/-
Sets of code points as ascending ranges.

A property of characters is a table of ranges; a code point is looked up in it by halving the part
of the table that may hold it.
-/
namespace DaemonConsole.Text

/-- Whether a code point lies in one of the ranges with an index in `low` to `high`. -/
def inRangesBetween (ranges : Array (Nat × Nat)) (n : Nat) :
    (fuel : Nat) → (low high : Nat) → Bool
  | 0, _, _ => false
  | fuel + 1, low, high =>
    if low < high then
      let middle := (low + high) / 2
      match ranges[middle]? with
      | none => false
      | some (first, last) =>
        if n < first then inRangesBetween ranges n fuel low middle
        else if last < n then inRangesBetween ranges n fuel (middle + 1) high
        else true
    else false

/-- Whether a code point lies in one of the ranges, which ascend and hold both their ends. A step
halves what is left of the table, so the number of binary digits of its size is enough fuel. -/
def inRanges (ranges : Array (Nat × Nat)) (n : Nat) : Bool :=
  inRangesBetween ranges n (ranges.size.log2 + 2) 0 ranges.size

end DaemonConsole.Text
