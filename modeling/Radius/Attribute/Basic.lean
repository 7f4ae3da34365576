-- SUMMARY: Attributes, the containers for vendor attributes, and their lengths on the wire.
import Radius.Attribute.Type
import Radius.Bytes
import Radius.Address.Basic
import Radius.Text.Utf8

/-!
# Attributes

An attribute is a type and a value. The attributes of a vendor travel inside a
Vendor-Specific container, which names the vendor once for all of them. A packet
holds standard attributes and containers in order.
-/

namespace Radius

structure Attribute where
  /-- The vendor whose attribute it is; none for a standard attribute. -/
  vendor : Option UInt32
  type : UInt8
  value : Bytes
deriving DecidableEq, Repr

namespace Attribute

/-- Octets of a type and a length. -/
def headerLength : Nat := 2

/-- What the length octet can say. -/
def maxLength : Nat := 255

/-- A standard attribute. -/
def standard (type : UInt8) (value : Bytes) : Attribute := ⟨none, type, value⟩

/-- An attribute of a vendor. -/
def ofVendor (vendor : UInt32) (type : UInt8) (value : Bytes) : Attribute := ⟨some vendor, type, value⟩

def ofText (type : UInt8) (text : String) : Attribute := standard type (Utf8.encode text)
def ofInteger (type : UInt8) (value : UInt32) : Attribute := standard type (Bytes.ofNat 4 value.toNat)
def ofIpv4 (type : UInt8) (address : Ipv4) : Attribute := standard type address.octets.bytes
def ofIpv6 (type : UInt8) (address : Ipv6) : Attribute := standard type address.octets.bytes

def encodedLength (attr : Attribute) : Nat := headerLength + attr.value.length

end Attribute

/-- A Vendor-Specific attribute: a vendor and sub-attributes. -/
structure Container where
  vendor : UInt32
  attributes : List Attribute
deriving DecidableEq, Repr

namespace Container

/-- Octets of a type, a length and a vendor. -/
def headerLength : Nat := 6

def empty (vendor : UInt32) : Container := ⟨vendor, []⟩

/-- Append an attribute, which becomes one of the container's vendor. -/
def add (container : Container) (attr : Attribute) : Container :=
  { container with
    attributes := container.attributes ++ [{ attr with vendor := some container.vendor }] }

def encodedLength (container : Container) : Nat :=
  headerLength + container.attributes.foldr (fun attr length => attr.encodedLength + length) 0

/-- Whether there are octets left for another `needed`. -/
def hasRoom (container : Container) (needed : Nat) : Bool :=
  container.encodedLength + needed ≤ Attribute.maxLength

end Container

/-- An attribute as it stands in a packet. -/
inductive PacketAttribute where
  | standard (attr : Attribute)
  | container (container : Container)
deriving DecidableEq, Repr

namespace PacketAttribute

/-- The attribute on its own: in a container of its vendor if it has one. -/
def ofAttribute (attr : Attribute) : PacketAttribute :=
  match attr.vendor with
  | some vendor => .container ⟨vendor, [attr]⟩
  | none        => .standard attr

/-- The type octet on the wire. -/
def type : PacketAttribute → UInt8
  | .standard attr => attr.type
  | .container _        => AttributeType.vendorSpecific

def encodedLength : PacketAttribute → Nat
  | .standard attr => attr.encodedLength
  | .container group => group.encodedLength

end PacketAttribute
end Radius
