/-
What may stand behind a backslash in a regular expression.

* `Mode.skip`: a text behind the blanks and comments that a mode passes over;
* `Pattern.readEscape`: the part that a backslash makes of the characters behind it.
-/
import DaemonConsole.Pattern.Basic
import DaemonConsole.Text.Blank
import DaemonConsole.Text.Numeral

namespace DaemonConsole.Pattern

/-! ### Blanks and comments -/

/-- A text behind its blanks and comments. A comment goes from a number sign to the end of its
line. -/
def skipComments (inComment : Bool) : List Char → List Char
  | [] => []
  | c :: cs =>
    if inComment then skipComments (c ≠ '\n') cs
    else if Text.isBlank c then skipComments false cs
    else if c = '#' then skipComments true cs
    else c :: cs

/-- A text behind what the mode passes over. -/
def Mode.skip (m : Mode) (cs : List Char) : List Char :=
  if m.spaced then skipComments false cs else cs

/-- The next character that counts when only one is looked at: blanks are passed over, and of a
comment its number sign is. -/
def Mode.glance (m : Mode) (cs : List Char) : Option Char :=
  if m.spaced then
    match Text.trimStartChars cs with
    | '#' :: rest => (Text.trimStartChars rest).head?
    | rest => rest.head?
  else cs.head?

/-! ### Characters by their numbers -/

/-- Takes hexadecimal digits. -/
def readHex (m : Mode) : (count : Nat) → List Char → Option (List Char × List Char)
  | 0, cs => some ([], cs)
  | count + 1, cs =>
    match m.skip cs with
    | [] => none
    | digit :: rest =>
      if Numeral.isDigit 16 digit then
        (readHex m count rest).map fun (digits, rest) => (digit :: digits, rest)
      else none

/-- The character with a number. -/
def charAt? (n : Nat) : Option Char :=
  if n < 0xD800 ∨ (0xE000 ≤ n ∧ n < 0x110000) then some (Char.ofNat n) else none

/-- Takes a character that is given by so many hexadecimal digits; two digits make a byte. -/
def readNumbered (m : Mode) (count : Nat) (cs : List Char) : Option (Part × List Char) := do
  let (digits, rest) ← readHex m count cs
  let char ← charAt? (Numeral.ofDigits 16 digits)
  return (.literal { char, isByte := count = 2 }, rest)

/-! ### Escapes -/

/-- The letters of the categories of Unicode. -/
def isCategoryLetter (c : Char) : Bool :=
  "CLMNPSZ".toList.contains c.toUpper

/-- Takes the letter of a category. -/
def readCategory (m : Mode) (cs : List Char) : Option (Part × List Char) :=
  match m.skip cs with
  | [] => none
  | letter :: rest => if isCategoryLetter letter then some (.oneOf .category, rest) else none

/-- The control character that a letter stands for. -/
def control? : Char → Option Char
  | 'a' => some '\x07'
  | 'f' => some '\x0c'
  | 'n' => some '\n'
  | 'r' => some '\r'
  | 't' => some '\t'
  | 'v' => some '\x0b'
  | _ => none

/-- What a single character behind a backslash stands for. Characters of ASCII other than letters
and digits stand for themselves, but for the angles, which are edges of words. -/
def escaped? (c : Char) : Option Part :=
  if "dsw".toList.contains c then some (.oneOf (.shorthand false))
  else if "DSW".toList.contains c then some (.oneOf (.shorthand true))
  else if "Az".toList.contains c then some .anchor
  else if "bB<>".toList.contains c then some .wordEdge
  else if c.toNat < 0x80 ∧ ¬c.isAlphanum then some (.literal { char := c })
  else (control? c).map fun char => .literal { char }

/-- Takes what stands behind a backslash. -/
def readEscape (m : Mode) : List Char → Option (Part × List Char)
  | [] => none
  | 'x' :: rest => readNumbered m 2 rest
  | 'u' :: rest => readNumbered m 4 rest
  | 'U' :: rest => readNumbered m 8 rest
  | 'p' :: rest => readCategory m rest
  | 'P' :: rest => readCategory m rest
  | c :: rest => (escaped? c).map fun part => (part, rest)

end DaemonConsole.Pattern
