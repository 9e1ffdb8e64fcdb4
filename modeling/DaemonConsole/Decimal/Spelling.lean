/-
How a number may be spelled.

A number has an optional sign before it and is infinite, undefined, or written in decimal digits: a
point may stand among them, before or behind them, and an exponent with a sign of its own may follow
after the letter `e`. Letters may be small or capital.

* `Decimal.isSpelling`: whether a text spells a number.
-/
import DaemonConsole.Text.Numeral

namespace DaemonConsole.Decimal

/-- A text without a sign at its start. -/
def afterSign : List Char → List Char
  | '+' :: rest => rest
  | '-' :: rest => rest
  | rest => rest

/-- The words for what no digits can write. -/
def endlessWords : List String := ["inf", "infinity", "nan"]

/-- Whether nothing is left, or an exponent with at least one digit. -/
def isExponent : List Char → Bool
  | [] => true
  | e :: rest =>
    let digits := afterSign rest
    (e = 'e' || e = 'E') && digits ≠ [] && digits.all (Numeral.isDigit 10)

/-- Whether a text is a number in digits, without a sign. -/
def isWritten (cs : List Char) : Bool :=
  let whole := cs.takeWhile (Numeral.isDigit 10)
  match cs.dropWhile (Numeral.isDigit 10) with
  | '.' :: rest =>
    let fraction := rest.takeWhile (Numeral.isDigit 10)
    (whole ≠ [] || fraction ≠ []) && isExponent (rest.dropWhile (Numeral.isDigit 10))
  | rest => whole ≠ [] && isExponent rest

/-- Whether a text spells a number. -/
def isSpelling (cs : List Char) : Bool :=
  let cs := afterSign cs
  isWritten cs || endlessWords.contains (String.ofList (cs.map Char.toLower))

end DaemonConsole.Decimal
