-- SUMMARY: Address ranges: the addresses that share their first bits with a given one.
import Radius.Address.Reader
import Radius.Address.Printer

/-!
# Networks

A network is an address and a number of leading bits: it contains the addresses of
the same family that agree with it in those bits. It is written as an address
alone, for all bits, or with a slash and the number of bits; an IPv4 network may
give a mask of contiguous ones instead of the number.
-/

namespace Radius

inductive Network where
  | v4 (address : Ipv4) (bits : Nat)
  | v6 (address : Ipv6) (bits : Nat)
deriving DecidableEq, Repr

namespace Network

/-- The first `bits` bits of a number of `width` bits. -/
def leadingBits (width bits value : Nat) : Nat := value >>> (width - bits)

/-- The network of an address alone. -/
def ofIp : Ip → Network
  | .v4 address => .v4 address 32
  | .v6 address => .v6 address 128

def contains : Network → Ip → Bool
  | .v4 network bits, .v4 address =>
      leadingBits 32 bits network.octets.toNat = leadingBits 32 bits address.octets.toNat
  | .v6 network bits, .v6 address =>
      leadingBits 128 bits network.octets.toNat = leadingBits 128 bits address.octets.toNat
  | _, _ => false

def toText : Network → String
  | .v4 address bits => s!"{address.toText}/{bits}"
  | .v6 address bits => s!"{address.toText}/{bits}"

/-- How many ones lead a mask that has no other ones. -/
def maskBits? (mask : Ipv4) : Option Nat :=
  (List.range 33).find? (fun bits => mask.octets.toNat = 0xFFFFFFFF - 0xFFFFFFFF >>> bits)

/-- A number of bits up to `width`. -/
def parseBits? (width : Nat) (text : String) : Option Nat :=
  match Decimal.parseUInt8 text with
  | .ok bits => if bits.toNat ≤ width then some bits.toNat else none
  | .error _ => none

/-- The address part, and what follows the slash if there is one; none for more than one slash. -/
def splitSlash? (text : String) : Option (String × Option String) :=
  let front := text.toList.takeWhile (· ≠ '/')
  match text.toList.dropWhile (· ≠ '/') with
  | []        => some (text, none)
  | _ :: back => if back.contains '/' then none else some (String.ofList front, some (String.ofList back))

def parseV4? (address : String) (size : Option String) : Option Network := do
  let ipv4 ← Ipv4.parse? address
  match size with
  | none => return .v4 ipv4 32
  | some size =>
      match Ipv4.parse? size with
      | some mask => return .v4 ipv4 (← maskBits? mask)
      | none      => return .v4 ipv4 (← parseBits? 32 size)

def parseV6? (address : String) (size : Option String) : Option Network := do
  let ipv6 ← Ipv6.parse? address
  match size with
  | none      => return .v6 ipv6 128
  | some size => return .v6 ipv6 (← parseBits? 128 size)

/-- The network that the whole text writes. -/
def parse? (text : String) : Option Network := do
  let (address, size) ← splitSlash? text
  match parseV4? address size with
  | some network => return network
  | none         => parseV6? address size

end Network
end Radius
