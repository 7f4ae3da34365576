-- SUMMARY: Typed attribute values and the kinds that say how octets are read as one.
import Radius.Address.Basic
import Radius.Packet.Error

/-!
# Typed values

A dictionary gives each attribute a kind, and a kind says which typed value its
octets hold. `Kind.decode` reads octets as a value and `Value.toBytes` writes a value
as octets. Every kind but the IPv6 prefix has one form of octets per value; a prefix
may be received with more or fewer address octets than its bits need, and is
written with exactly those.
-/

namespace Radius

/-- How the octets of an attribute are read. -/
inductive Kind where
  | string
  /-- A big-endian number of four octets; also a time in seconds. -/
  | integer
  | ipv4
  | ipv6
  /-- A reserved octet, a number of bits, and the octets that hold those bits. -/
  | ipv6Prefix
  | octets
  /-- The sub-attributes of a vendor; only the standard attribute 26 has this kind. -/
  | vendorSpecific
deriving DecidableEq, Repr, Inhabited

/-- A typed value. -/
inductive Value where
  | string (text : String)
  | integer (value : UInt32)
  | ipv4 (address : Ipv4)
  | ipv6 (address : Ipv6)
  | ipv6Prefix (address : Ipv6) (bits : UInt8)
  | octets (bytes : Bytes)
deriving DecidableEq, Repr

namespace Value

/-- How many octets hold a number of bits. -/
def significantOctets (bits : UInt8) : Nat := (bits.toNat + 7) / 8

/-- The octets of a number. -/
def integerBytes (value : UInt32) : Bytes := Bytes.ofNat 4 value.toNat

def toBytes : Value → Bytes
  | .string text             => Utf8.encode text
  | .integer value           => integerBytes value
  | .ipv4 address            => address.octets.bytes
  | .ipv6 address            => address.octets.bytes
  | .ipv6Prefix address bits => 0 :: bits :: address.octets.bytes.take (significantOctets bits)
  | .octets bytes            => bytes

/-- The kind whose values these are. -/
def kind : Value → Kind
  | .string _       => .string
  | .integer _      => .integer
  | .ipv4 _         => .ipv4
  | .ipv6 _         => .ipv6
  | .ipv6Prefix _ _ => .ipv6Prefix
  | .octets _       => .octets

end Value

namespace Kind

/-- Octets of a fixed number, which the error names together with what they should be. -/
def fixed (n : Nat) (what : String) (bytes : Bytes) : Except PacketError (Octets n) :=
  match Octets.ofBytes? n bytes with
  | some exact => .ok exact
  | none       => .error (.invalidValue (.wrongLength n what bytes.length))

def decodeText (bytes : Bytes) : Except PacketError String :=
  match Utf8.decode bytes with
  | .ok text     => .ok text
  | .error fault => .error (.invalidValue (.notUtf8 fault))

def decodeInteger (bytes : Bytes) : Except PacketError UInt32 :=
  (fixed 4 "integer" bytes).map (fun exact => UInt32.ofNat exact.toNat)

/-- A reserved octet, at most 128 bits, and up to sixteen address octets; address octets that are
missing are zero. -/
def decodePrefix : Bytes → Except PacketError Value
  | _ :: bits :: address =>
      if 16 < address.length then .error (.invalidValue (.prefixBytes (address.length + 2)))
      else if 128 < bits.toNat then .error (.invalidValue (.prefixBits bits.toNat))
      else .ok (.ipv6Prefix ⟨Octets.ofPrefix 16 address⟩ bits)
  | bytes => .error (.invalidValue (.prefixBytes bytes.length))

/-- Read octets as a value of a kind. -/
def decode : Kind → Bytes → Except PacketError Value
  | .string,         bytes => (decodeText bytes).map .string
  | .integer,        bytes => (decodeInteger bytes).map .integer
  | .ipv4,           bytes => (fixed 4 "IPv4" bytes).map (fun exact => .ipv4 ⟨exact⟩)
  | .ipv6,           bytes => (fixed 16 "IPv6" bytes).map (fun exact => .ipv6 ⟨exact⟩)
  | .ipv6Prefix,     bytes => decodePrefix bytes
  | .octets,         bytes => .ok (.octets bytes)
  | .vendorSpecific, bytes => .ok (.octets bytes)

end Kind
end Radius
