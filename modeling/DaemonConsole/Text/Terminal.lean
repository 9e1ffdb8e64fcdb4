/-
Texts without the control sequences of terminals.

An escape character starts a sequence: a short one of an escape and a few characters, a control
sequence that starts with a bracket and ends with a letter, or a string, which a command to the
operating system may end with a bell, other strings with a string terminator, and any string with
the next escape. A shown text keeps what is outside the sequences, and of the other control
characters the blank ones only; such a blank is kept inside a sequence too, unless that is a string.

* `Terminal.Mode`: what the characters read so far leave open;
* `Terminal.Scan`: where a scan over a text stands;
* `Terminal.visible`: what is left of a text.
-/
import DaemonConsole.Text.Utf8

namespace DaemonConsole.Terminal

/-- What the characters read so far leave open. -/
inductive Mode where
  | ground
  /-- An escape character stands before. -/
  | escape
  /-- A short sequence goes on. -/
  | short
  /-- A control sequence goes on. -/
  | control
  /-- A command to the operating system goes on. -/
  | command
  /-- A string for the device starts. -/
  | device
  /-- The parameters of a string for the device go on. -/
  | deviceParameters
  /-- Marks go on that stand before the kind of a string for the device. -/
  | deviceMarks
  /-- A string of another kind goes on, or the rest of one for the device. -/
  | string
  deriving DecidableEq, Repr

/-- Where a text is shown. -/
inductive Medium where
  /-- A text for other programs: a kept blank breaks off the sequence that it stands in. -/
  | text
  /-- A stream: behind a kept blank characters are shown until the next one that is not, and from
  there the sequence goes on. -/
  | stream
  deriving DecidableEq, Repr

/-- The control characters that are blanks. -/
def isBlankControl (c : Char) : Bool :=
  c = '\t' || c = '\n' || c = '\x0c' || c = '\r'

/-- Whether a character is no control character of ASCII. -/
def isPrintable (c : Char) : Bool :=
  ' ' ≤ c && c ≠ '\x7f'

/-- Whether a character lies in a range. -/
def isBetween (first last c : Char) : Bool :=
  first ≤ c && c ≤ last

/-- Whether a character ends strings: the string terminator, or one that has its byte. -/
def isTerminator (c : Char) : Bool :=
  0x80 ≤ c.toNat && (Utf8.encode (String.singleton c)).contains 0x9C

namespace Mode

/-- Whether a blank control character is kept. -/
def admitsBlanks : Mode → Bool
  | ground => true
  | escape => true
  | short => true
  | control => true
  | _ => false

/-- What a character after an escape opens. -/
def afterEscape (c : Char) : Mode :=
  if c = '[' then control
  else if c = ']' then command
  else if c = 'P' then device
  else if c = 'X' ∨ c = '^' ∨ c = '_' then string
  else if isBetween ' ' '/' c then short
  else if isBetween '0' '~' c then ground
  else escape

/-- What a character at the start of a string for the device leaves open. -/
def afterDevice (c : Char) : Mode :=
  if isBetween ' ' '/' c then deviceMarks
  else if isBetween '0' '?' c then deviceParameters
  else if isBetween '@' '~' c then string
  else device

/-- What a character behind parameters of a string for the device leaves open. -/
def afterParameters (c : Char) : Mode :=
  if isBetween ' ' '/' c then deviceMarks
  else if isBetween '<' '~' c then string
  else deviceParameters

/-- What a character that is not kept leaves open. -/
def next (m : Mode) (c : Char) : Mode :=
  if c = '\x1b' then escape
  else if c = '\x18' ∨ c = '\x1a' then ground
  else
    match m with
    | ground => ground
    | escape => afterEscape c
    | short => if isBetween '0' '~' c then ground else short
    | control => if isBetween '@' '~' c then ground else control
    | command => if c = '\x07' then ground else command
    | device => afterDevice c
    | deviceParameters => afterParameters c
    | deviceMarks => if isBetween '0' '~' c then string else deviceMarks
    | string => if isTerminator c then ground else string

end Mode

/-- Where a scan over a text stands. -/
structure Scan where
  mode : Mode := .ground
  /-- The last character was kept. -/
  showing : Bool := false
  deriving DecidableEq, Repr

namespace Scan

/-- Whether a character is kept. -/
def keeps (s : Scan) (c : Char) : Bool :=
  ((s.showing || s.mode == .ground) && isPrintable c)
    || ((s.showing || s.mode.admitsBlanks) && isBlankControl c)

/-- Where a character leads. A character beyond ASCII that is kept breaks off what is open. -/
def next (medium : Medium) (s : Scan) (c : Char) : Scan :=
  if s.keeps c then
    { mode := if medium = .text ∨ 0x80 ≤ c.toNat then .ground else s.mode, showing := true }
  else { mode := s.mode.next c }

/-- The characters that are kept of the rest of a text. -/
def visible (medium : Medium) (s : Scan) : List Char → List Char
  | [] => []
  | c :: cs =>
    let rest := (s.next medium c).visible medium cs
    if s.keeps c then c :: rest else rest

end Scan

/-- A text without its control sequences. -/
def visible (medium : Medium) (s : String) : String :=
  String.ofList (Scan.visible medium {} s.toList)

end DaemonConsole.Terminal
