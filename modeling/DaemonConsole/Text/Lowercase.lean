/-
Keywords that are recognised whatever their letter case.

The keywords are ASCII words, and a text matches one when its lowercase form is that word. A letter
whose lowercase form is an ASCII letter is an ASCII capital or U+212A KELVIN SIGN, so a folding of
these letters decides every match.
-/
namespace DaemonConsole.Text

/-- The ASCII lowercase form of a letter that has one; any other character is kept. -/
def lowerChar (c : Char) : Char :=
  if 'A' ≤ c ∧ c ≤ 'Z' then Char.ofNat (c.toNat + 32)
  else if c = '\u212A' then 'k'
  else c

/-- A text with every letter folded by `lowerChar`. -/
def lowercase (s : String) : String :=
  s.map lowerChar

end DaemonConsole.Text
