/-
Internet addresses: values, reading and printing.

An address is a word of 32 or 128 bits. Reading takes an address off the front of a text, so that
larger forms (endpoints, subnets) are built from it.

* `IpAddr.parse?`: a whole text as an address;
* `IpAddr.print`: dotted decimal for 32 bits, and for 128 bits the groups in hexadecimal with the
  first longest run of two or more zero groups left out;
* `IpAddr.isLoopback`: `127.0.0.0/8` and `::1`.
-/
import DaemonConsole.Text.Numeral

namespace DaemonConsole

/-- An internet address of either family. -/
inductive IpAddr where
  | v4 (bits : BitVec 32)
  | v6 (bits : BitVec 128)
  deriving DecidableEq, Repr

namespace IpAddr

/-- Whether the address belongs to the 32-bit family. -/
def isV4 : IpAddr → Bool
  | v4 _ => true
  | v6 _ => false

/-- The number of bits of the address. -/
def width : IpAddr → Nat
  | v4 _ => 32
  | v6 _ => 128

/-- The numeric value of the address. -/
def toNat : IpAddr → Nat
  | v4 bits => bits.toNat
  | v6 bits => bits.toNat

/-- Addresses that reach the host itself. -/
def isLoopback : IpAddr → Bool
  | v4 bits => bits.toNat / 0x1000000 == 127
  | v6 bits => bits.toNat == 1

end IpAddr

/-! ### Taking pieces off a text

A reader gives the value it takes and the text after it. -/

namespace Reading

/-- Takes one given character. -/
def char (c : Char) : List Char → Option (List Char)
  | d :: cs => if d = c then some cs else none
  | [] => none

/-- Takes the whole run of digits of a base and gives its value. -/
def digits (base : Nat) (cs : List Char) : Option (Nat × List Char) :=
  match cs.takeWhile (Numeral.isDigit base) with
  | [] => none
  | ds => some (Numeral.ofDigits base ds, cs.dropWhile (Numeral.isDigit base))

/-- Takes a run of digits whose value is below `bound`; leading zeros are allowed. -/
def boundedDigits (bound : Nat) (cs : List Char) : Option (Nat × List Char) :=
  (digits 10 cs).filter (·.1 < bound)

/-- Takes one decimal octet: up to three digits, no leading zero, at most 255. -/
def octet (cs : List Char) : Option (Nat × List Char) :=
  let ds := cs.takeWhile (Numeral.isDigit 10)
  if ds.length ≤ 3 ∧ (ds.length ≤ 1 ∨ ds.head? ≠ some '0') then boundedDigits 256 cs else none

/-- Takes one group of up to four hexadecimal digits. -/
def group (cs : List Char) : Option (Nat × List Char) :=
  if (cs.takeWhile (Numeral.isDigit 16)).length ≤ 4 then digits 16 cs else none

/-- Takes four octets with a point between them and gives the number they spell. -/
def dotted (cs : List Char) : Option (Nat × List Char) := do
  let (a, cs) ← octet cs
  let (b, cs) ← octet (← char '.' cs)
  let (c, cs) ← octet (← char '.' cs)
  let (d, cs) ← octet (← char '.' cs)
  return (((a * 256 + b) * 256 + c) * 256 + d, cs)

/-- What `separated` takes off before a piece: nothing before the first one, else a colon. -/
def colon (first : Bool) (cs : List Char) : Option (List Char) :=
  if first then some cs else char ':' cs

/-- Takes up to `room` groups with a colon between them. Where two groups fit, a dotted form may
stand for them, and then nothing follows it. Gives the groups, whether the last two were dotted, and
the text after them. -/
def groups : (room : Nat) → (first : Bool) → List Char → List Nat × Bool × List Char
  | 0, _, cs => ([], false, cs)
  | room + 1, first, cs =>
    match (if room = 0 then none else (colon first cs).bind dotted) with
    | some (n, rest) => ([n / 65536, n % 65536], true, rest)
    | none =>
      match (colon first cs).bind group with
      | none => ([], false, cs)
      | some (g, rest) =>
        let (gs, endsDotted, rest) := groups room false rest
        (g :: gs, endsDotted, rest)

/-- Takes eight groups, or fewer with `::` in place of at least one group of zeros. -/
def eightGroups (cs : List Char) : Option (List Nat × List Char) :=
  let (head, endsDotted, rest) := groups 8 true cs
  if head.length = 8 then some (head, rest)
  else if endsDotted then none
  else
    match rest with
    | ':' :: ':' :: rest =>
      let (tail, _, rest) := groups (7 - head.length) true rest
      some (head ++ List.replicate (8 - head.length - tail.length) 0 ++ tail, rest)
    | _ => none

end Reading

/-! ### Groups of a 128-bit word -/

/-- The eight 16-bit groups of a word, the most significant first. -/
def groupsOfWord (bits : BitVec 128) : List Nat :=
  [7, 6, 5, 4, 3, 2, 1, 0].map fun i => bits.toNat >>> (16 * i) % 65536

/-- The word that eight groups make up. -/
def wordOfGroups (gs : List Nat) : BitVec 128 :=
  BitVec.ofNat 128 (gs.foldl (fun n g => n * 65536 + g) 0)

namespace IpAddr

/-! ### Reading -/

/-- Takes an address of 32 bits off a text. -/
def readV4 (cs : List Char) : Option (BitVec 32 × List Char) :=
  (Reading.dotted cs).map fun (n, rest) => (BitVec.ofNat 32 n, rest)

/-- Takes an address of 128 bits off a text. -/
def readV6 (cs : List Char) : Option (BitVec 128 × List Char) :=
  (Reading.eightGroups cs).map fun (gs, rest) => (wordOfGroups gs, rest)

/-- Takes an address off a text, the dotted form first. -/
def read (cs : List Char) : Option (IpAddr × List Char) :=
  match readV4 cs with
  | some (bits, rest) => some (v4 bits, rest)
  | none => (readV6 cs).map fun (bits, rest) => (v6 bits, rest)

/-- Reads a text that is one address and nothing else. -/
def parse? (s : String) : Option IpAddr :=
  match read s.toList with
  | some (a, []) => some a
  | _ => none

/-! ### Printing -/

/-- The four octets in decimal with points between them. -/
def printDotted (n : Nat) : String :=
  ".".intercalate ([3, 2, 1, 0].map fun i => toString (n >>> (8 * i) % 256))

/-- A group in hexadecimal, without leading zeros. -/
def printGroup (g : Nat) : String :=
  String.ofList (Nat.toDigits 16 g)

/-- Groups in hexadecimal with colons between them. -/
def printGroups (gs : List Nat) : String :=
  ":".intercalate (gs.map printGroup)

/-- Where the first longest run of zero groups starts, and its length. -/
def zeroRun (gs : List Nat) : Nat × Nat :=
  (List.range gs.length).foldl
    (fun best i =>
      let length := ((gs.drop i).takeWhile (· == 0)).length
      if best.2 < length then (i, length) else best)
    (0, 0)

/-- An address of 128 bits. One that holds a 32-bit address (`::ffff:0:0/96`) shows it dotted; a
single zero group is printed, a longer run of them is left out. -/
def printV6 (bits : BitVec 128) : String :=
  let gs := groupsOfWord bits
  if gs.take 6 = [0, 0, 0, 0, 0, 0xFFFF] then
    "::ffff:" ++ printDotted (bits.toNat % UInt32.size)
  else
    let (start, length) := zeroRun gs
    if 1 < length then
      printGroups (gs.take start) ++ "::" ++ printGroups (gs.drop (start + length))
    else printGroups gs

/-- The text of an address. -/
def print : IpAddr → String
  | v4 bits => printDotted bits.toNat
  | v6 bits => printV6 bits

end IpAddr

end DaemonConsole
