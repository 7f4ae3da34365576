-- SUMMARY: The layout of attributes on the wire: appending them to a buffer and splitting an attribute list.
import Radius.Attribute.Basic
import Radius.Packet.Error

/-!
# Attributes on the wire

An attribute is its type, its length and its value. `encodeInto` appends to a buffer
and says what is in the buffer afterwards, also when it fails; `decodeAttributes`
splits a byte string into attributes, and those of type 26 into sub-attributes. The
attributes it returns are `Canonical`: the ones that the wire can carry.
-/

namespace Radius

/-! ## Writing -/

/-- What an attempt to append to a buffer comes to, and the buffer it leaves. -/
abbrev Appended := Except PacketError Unit × Bytes

/-- Append things one after the other, up to the first that fails. -/
def encodeEach {α : Type} (encodeInto : α → Bytes → Appended) : List α → Bytes → Appended
  | [],             buffer => (.ok (), buffer)
  | first :: later, buffer =>
      match encodeInto first buffer with
      | (.ok (), buffer') => encodeEach encodeInto later buffer'
      | failed            => failed

def Attribute.encodeInto (attr : Attribute) (buffer : Bytes) : Appended :=
  if maxLength < attr.encodedLength then
    (.error (.attributeTooLong attr.type attr.encodedLength), buffer)
  else (.ok (), buffer ++ attr.type :: UInt8.ofNat attr.encodedLength :: attr.value)

def Container.header (container : Container) : Bytes :=
  AttributeType.vendorSpecific :: UInt8.ofNat container.encodedLength ::
    Bytes.ofNat 4 container.vendor.toNat

def Container.encodeInto (container : Container) (buffer : Bytes) : Appended :=
  if Attribute.maxLength < container.encodedLength then
    (.error (.attributeTooLong AttributeType.vendorSpecific container.encodedLength), buffer)
  else encodeEach Attribute.encodeInto container.attributes (buffer ++ container.header)

namespace PacketAttribute

def encodeInto : PacketAttribute → Bytes → Appended
  | .standard attr,   buffer => attr.encodeInto buffer
  | .container group, buffer => group.encodeInto buffer

/-- The octets of an attribute list. -/
def encodeList (attributes : List PacketAttribute) : Except PacketError Bytes :=
  match encodeEach encodeInto attributes [] with
  | (.ok (), buffer)  => .ok buffer
  | (.error fault, _) => .error fault

end PacketAttribute

/-! ## Reading -/

/-- A type, a value, and what follows them. -/
structure Split where
  type : UInt8
  value : Bytes
  rest : Bytes
deriving DecidableEq, Repr

/-- Split one attribute off the front of a byte string. -/
def Split.ofBytes : Bytes → Except Malformed Split
  | []  => .error (.headerCut 0)
  | [_] => .error (.headerCut 1)
  | type :: length :: body =>
      let value := body.take (length.toNat - 2)
      if length.toNat < Attribute.headerLength then .error (.lengthTooSmall length.toNat)
      else if value.length + 2 < length.toNat then
        .error (.valueCut type length.toNat (value.length + 2))
      else .ok ⟨type, value, body.drop (length.toNat - 2)⟩

theorem Split.length_rest_lt {bytes : Bytes} {split : Split} (h : Split.ofBytes bytes = .ok split) :
    split.rest.length < bytes.length := by
  unfold ofBytes at h
  split at h
  · cases h
  · cases h
  · dsimp only at h
    split at h
    · cases h
    · split at h
      · cases h
      · cases h
        simp
        omega

/-- Split a byte string into attributes, each read before the next is split off. -/
def decodeEach {α : Type} (read : UInt8 → Bytes → Except Malformed α) (bytes : Bytes) :
    Except Malformed (List α) :=
  match bytes with
  | [] => .ok []
  | octet :: octets =>
      match h : Split.ofBytes (octet :: octets) with
      | .error fault => .error fault
      | .ok split =>
          have := Split.length_rest_lt h
          match read split.type split.value with
          | .error fault => .error fault
          | .ok first =>
              match decodeEach read split.rest with
              | .error fault => .error fault
              | .ok later    => .ok (first :: later)
termination_by bytes.length
decreasing_by assumption

/-- The container that a Vendor-Specific value holds. -/
def Container.decode : Bytes → Except Malformed Container
  | a :: b :: c :: d :: rest =>
      let vendor := UInt32.ofNat (Bytes.toNat [a, b, c, d])
      (decodeEach (fun type value => .ok (Attribute.ofVendor vendor type value)) rest).map
        (Container.mk vendor)
  | bytes => .error (.vendorCut bytes.length)

/-- The attribute that a type and a value on the wire are. -/
def PacketAttribute.decode (type : UInt8) (value : Bytes) : Except Malformed PacketAttribute :=
  if type = AttributeType.vendorSpecific then (Container.decode value).map .container
  else .ok (.standard (Attribute.standard type value))

/-- The attribute list that a byte string holds. -/
def decodeAttributes (bytes : Bytes) : Except PacketError (List PacketAttribute) :=
  match decodeEach PacketAttribute.decode bytes with
  | .ok attributes => .ok attributes
  | .error fault   => .error (.malformedAttribute fault)

/-! ## What the wire can carry -/

/-- An attribute that the wire can carry: a standard one has no vendor, a type other than that of
containers, and a length that fits; a container holds attributes of its own vendor and fits. -/
def PacketAttribute.Canonical : PacketAttribute → Prop
  | .standard attr =>
      attr.vendor = none ∧ attr.type ≠ AttributeType.vendorSpecific ∧ attr.value.length ≤ 253
  | .container group =>
      (∀ attr ∈ group.attributes, attr.vendor = some group.vendor) ∧ group.encodedLength ≤ 255

instance (attr : PacketAttribute) : Decidable attr.Canonical := by
  cases attr <;> unfold PacketAttribute.Canonical <;> infer_instance

end Radius
