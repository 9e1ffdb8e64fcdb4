/-
Reading bytes as UTF-8.

The decoder is a machine that takes one byte at a time. It is either between characters or inside a
multi-byte form, and then it knows which bytes may come next. A byte that cannot go on ends the form
with one U+FFFD and is taken again between characters, so a malformed run costs one replacement
character per maximal piece that starts some well-formed sequence.

* `decode`: every byte list as characters, malformed pieces replaced;
* `isWellFormed`: no piece was replaced;
* `encode`: the bytes of a text.

An ASCII byte always ends what came before it, so a text may be cut at line feeds before or after
decoding with the same result.
-/
namespace DaemonConsole.Utf8

/-- What the decoder is in the middle of. -/
inductive Decoder where
  /-- Between characters. -/
  | ground
  /-- Inside a form: the next byte lies in `low` to `high`, `missing` more follow it, and `scalar`
  holds the bits read so far. -/
  | inside (low high : UInt8) (missing : Nat) (scalar : Nat)
  deriving DecidableEq, Repr

/-- What stands for a malformed piece. -/
def replacement : Char := '\uFFFD'

/-- A byte between characters: a whole character, the start of a form, or a malformed byte. -/
def start (b : UInt8) : List Char × Decoder :=
  if b < 0x80 then ([Char.ofNat b.toNat], .ground)
  else if b < 0xC2 then ([replacement], .ground)
  else if b < 0xE0 then ([], .inside 0x80 0xBF 0 (b.toNat - 0xC0))
  else if b = 0xE0 then ([], .inside 0xA0 0xBF 1 0)
  else if b = 0xED then ([], .inside 0x80 0x9F 1 0xD)
  else if b < 0xF0 then ([], .inside 0x80 0xBF 1 (b.toNat - 0xE0))
  else if b = 0xF0 then ([], .inside 0x90 0xBF 2 0)
  else if b < 0xF4 then ([], .inside 0x80 0xBF 2 (b.toNat - 0xF0))
  else if b = 0xF4 then ([], .inside 0x80 0x8F 2 4)
  else ([replacement], .ground)

/-- Takes one byte: the characters it completes and what the decoder is in afterwards. -/
def Decoder.step : Decoder → UInt8 → List Char × Decoder
  | .ground, b => start b
  | .inside low high missing scalar, b =>
    if low ≤ b ∧ b ≤ high then
      let scalar := scalar * 64 + (b.toNat - 0x80)
      match missing with
      | 0 => ([Char.ofNat scalar], .ground)
      | m + 1 => ([], .inside 0x80 0xBF m scalar)
    else
      let (cs, d) := start b
      (replacement :: cs, d)

/-- The end of the bytes: a form cut short is malformed. -/
def Decoder.flush : Decoder → List Char
  | .ground => []
  | .inside .. => [replacement]

/-- The characters that the rest of the bytes give. -/
def Decoder.run (d : Decoder) : List UInt8 → List Char
  | [] => d.flush
  | b :: bs => (d.step b).1 ++ (d.step b).2.run bs

/-- The characters of any bytes, malformed pieces replaced by U+FFFD. -/
def decode (bs : List UInt8) : List Char :=
  Decoder.ground.run bs

/-- Whether a byte fits where the decoder stands. -/
def Decoder.accepts : Decoder → UInt8 → Bool
  | .ground, b => b < 0x80 || (0xC2 ≤ b && b ≤ 0xF4)
  | .inside low high _ _, b => low ≤ b && b ≤ high

/-- Whether the rest of the bytes is read without a replacement. -/
def Decoder.accepted (d : Decoder) : List UInt8 → Bool
  | [] => d == .ground
  | b :: bs => d.accepts b && (d.step b).2.accepted bs

/-- Whether the bytes are well-formed UTF-8. -/
def isWellFormed (bs : List UInt8) : Bool :=
  Decoder.ground.accepted bs

/-- The bytes of a text. -/
def encode (s : String) : List UInt8 :=
  s.toUTF8.toList

end DaemonConsole.Utf8
