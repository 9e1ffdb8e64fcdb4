/-
Subnets: an address and how many of its leading bits count.

The bits after the leading ones are kept, so `10.0.0.1/8` and `10.0.0.0/8` are two subnets that
cover the same addresses.

* `Subnet.covers`: membership, by masking both addresses;
* `Subnet.parse?`, `Subnet.print`: the form `address/length`.
-/
import DaemonConsole.Network.Address

namespace DaemonConsole

/-- An address together with the number of its leading bits that count. -/
structure Subnet where
  address : IpAddr
  length : Nat
  length_le : length ≤ address.width
  deriving DecidableEq, Repr

namespace Subnet

/-- The word with `length` ones at its most significant end. -/
def mask (width length : Nat) : BitVec width :=
  BitVec.allOnes width <<< (width - length)

/-- Whether an address is of the subnet's family and agrees with it under the mask. -/
def covers (p : Subnet) (target : IpAddr) : Bool :=
  match p.address, target with
  | .v4 net, .v4 ip => net &&& mask 32 p.length == ip &&& mask 32 p.length
  | .v6 net, .v6 ip => net &&& mask 128 p.length == ip &&& mask 128 p.length
  | _, _ => false

/-- Reads an address, a slash and a length that fits the address. -/
def parse? (s : String) : Option Subnet :=
  let cs := s.toList
  match cs.dropWhile (· != '/') with
  | [] => none
  | _ :: lengthText => do
    let address ← IpAddr.parse? (String.ofList (cs.takeWhile (· != '/')))
    let length ← Numeral.read? UInt8.size (String.ofList lengthText)
    if h : length ≤ address.width then return ⟨address, length, h⟩ else none

/-- The text of a subnet. -/
def print (p : Subnet) : String :=
  p.address.print ++ "/" ++ toString p.length

/-- The place of a subnet in the order of a route table: the 32-bit family first, then by address,
then by length. -/
def rank (p : Subnet) : Nat :=
  let family := if p.address.isV4 then 0 else 1
  (family <<< 128 + p.address.toNat) * 256 + p.length

/-- A length fits into the low byte of a rank. -/
theorem length_lt (p : Subnet) : p.length < 256 := by
  have h := p.length_le
  unfold IpAddr.width at h
  split at h <;> omega

/-- Two subnets of one rank are the same. -/
theorem rank_injective {p q : Subnet} (h : p.rank = q.rank) : p = q := by
  have hp := p.length_lt
  have hq := q.length_lt
  obtain ⟨a, m, hm⟩ := p
  obtain ⟨b, n, hn⟩ := q
  simp only [rank] at h hp hq
  have hlen : m = n := by omega
  subst hlen
  cases a with
  | v4 x =>
    cases b with
    | v4 y =>
      have : x.toNat = y.toNat := by simp [IpAddr.isV4, IpAddr.toNat] at h; omega
      simp [BitVec.eq_of_toNat_eq this]
    | v6 y =>
      have := x.isLt
      simp [IpAddr.isV4, IpAddr.toNat] at h
      omega
  | v6 x =>
    cases b with
    | v4 y =>
      have := y.isLt
      simp [IpAddr.isV4, IpAddr.toNat] at h
      omega
    | v6 y =>
      have : x.toNat = y.toNat := by simp [IpAddr.isV4, IpAddr.toNat] at h; omega
      simp [BitVec.eq_of_toNat_eq this]

end Subnet

end DaemonConsole
