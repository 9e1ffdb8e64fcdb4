/-
Blank characters and the words of a line.

* `isBlank`: the Unicode `White_Space` property;
* `trim`: a text without the blanks at its two ends;
* `words`: the maximal runs of non-blank characters, in order;
* `splitFirst`: the first word of a text and the trimmed rest.

Every place of the console that cuts a text into words uses this one property, so an operator may
separate words by any blank.
-/
namespace DaemonConsole.Text

/-- The Unicode `White_Space` property. -/
def isBlank (c : Char) : Bool :=
  let n := c.toNat
  (9 ≤ n && n ≤ 13) || n == 0x20 || n == 0x85 || n == 0xA0 || n == 0x1680
    || (0x2000 ≤ n && n ≤ 0x200A) || n == 0x2028 || n == 0x2029 || n == 0x202F
    || n == 0x205F || n == 0x3000

/-! ### Character lists -/

/-- The characters after the leading blanks. -/
def trimStartChars (cs : List Char) : List Char :=
  cs.dropWhile isBlank

/-- The characters up to the last one that is not blank. -/
def trimEndChars : List Char → List Char
  | [] => []
  | c :: cs =>
    match trimEndChars cs with
    | [] => if isBlank c then [] else [c]
    | d :: ds => c :: d :: ds

/-- The characters from the first to the last one that is not blank. -/
def trimChars (cs : List Char) : List Char :=
  trimEndChars (trimStartChars cs)

/-- The maximal runs of non-blank characters, in order. -/
def wordsOfChars : List Char → List (List Char)
  | [] => []
  | c :: cs =>
    if isBlank c then wordsOfChars cs
    else
      match cs with
      | [] => [[c]]
      | d :: _ =>
        if isBlank d then [c] :: wordsOfChars cs
        else (wordsOfChars cs).modifyHead (c :: ·)

/-- The first word of a list of characters and the trimmed rest; nothing when all is blank. -/
def splitFirstChars (cs : List Char) : Option (List Char × List Char) :=
  match trimStartChars cs with
  | [] => none
  | c :: rest =>
    some ((c :: rest).takeWhile (!isBlank ·), trimChars ((c :: rest).dropWhile (!isBlank ·)))

/-! ### Strings -/

/-- A text without the blanks at its two ends. -/
def trim (s : String) : String :=
  String.ofList (trimChars s.toList)

/-- Whether a text holds blanks only. -/
def isAllBlank (s : String) : Bool :=
  s.toList.all isBlank

/-- Whether a text holds a blank somewhere. -/
def hasBlank (s : String) : Bool :=
  s.toList.any isBlank

/-- The words of a text, in order. -/
def words (s : String) : List String :=
  (wordsOfChars s.toList).map String.ofList

/-- The first word of a text and the trimmed rest; nothing for a blank text. -/
def splitFirst (s : String) : Option (String × String) :=
  (splitFirstChars s.toList).map fun (word, rest) => (String.ofList word, String.ofList rest)

/-- Whether `name` starts with `stem`, character by character. -/
def startsWith (name stem : String) : Bool :=
  stem.toList.isPrefixOf name.toList

/-- A text followed by as many spaces as `width` asks for; a longer text stays as it is. -/
def padRight (width : Nat) (s : String) : String :=
  s ++ String.ofList (List.replicate (width - s.length) ' ')

/-- The texts one after another with a line feed between them. -/
def joinLines (lines : List String) : String :=
  String.intercalate "\n" lines

end DaemonConsole.Text
