/-
Positions in a text, counted in the bytes of its UTF-8 form.

* `byteLength`: the number of bytes of a text;
* `takeBytes`, `dropBytes`: the characters before and behind a position;
* `bytesBetween?`: the characters between two positions that lie between characters.
-/
namespace DaemonConsole.Text

/-- The number of bytes of a text in UTF-8. -/
def byteLength : List Char → Nat
  | [] => 0
  | c :: cs => c.utf8Size + byteLength cs

/-- The characters that lie in the first `bytes` bytes of a text. -/
def takeBytes : (bytes : Nat) → List Char → List Char
  | _, [] => []
  | bytes, c :: cs =>
    if c.utf8Size ≤ bytes then c :: takeBytes (bytes - c.utf8Size) cs else []

/-- The characters that do not lie in the first `bytes` bytes of a text. -/
def dropBytes : (bytes : Nat) → List Char → List Char
  | _, [] => []
  | bytes, c :: cs =>
    if c.utf8Size ≤ bytes then dropBytes (bytes - c.utf8Size) cs else c :: cs

/-- A position cuts a text in two. -/
theorem takeBytes_append_dropBytes (bytes : Nat) (cs : List Char) :
    takeBytes bytes cs ++ dropBytes bytes cs = cs := by
  induction cs generalizing bytes with
  | nil => rfl
  | cons c cs ih =>
    by_cases h : c.utf8Size ≤ bytes
    · simp [takeBytes, dropBytes, h, ih]
    · simp [takeBytes, dropBytes, h]

/-- The first `bytes` bytes of a text; nothing when they end inside a character. -/
def takeBytes? (bytes : Nat) (cs : List Char) : Option (List Char) :=
  let taken := takeBytes bytes cs
  if byteLength taken = bytes then some taken else none

/-- The text behind its first `bytes` bytes; nothing when they end inside a character. -/
def dropBytes? (bytes : Nat) (cs : List Char) : Option (List Char) :=
  (takeBytes? bytes cs).map fun _ => dropBytes bytes cs

/-- The text from one position up to another one; nothing when one of them is inside a character. -/
def bytesBetween? (start stop : Nat) (cs : List Char) : Option (List Char) := do
  takeBytes? (stop - start) (← dropBytes? start cs)

end DaemonConsole.Text
