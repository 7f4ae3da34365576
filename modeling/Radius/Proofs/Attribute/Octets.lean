-- SUMMARY: The octets of attributes as a pure layout, and encoding as appending them or leaving the buffer alone.
import Radius.Attribute.Wire
import Radius.Proofs.Bytes

/-!
# Octets of attributes

`octets` lays an attribute out without asking whether its length fits the length
octet. Encoding asks, and is otherwise nothing but this layout: it appends exactly
the octets, or fails and leaves the buffer as it was. A container is a record of
type 26 whose value starts with the vendor.
-/

namespace Radius

/-! ## Layout -/

namespace Attribute

/-- A type, the length of the whole in one octet, and a value. -/
def record (type : UInt8) (value : Bytes) : Bytes :=
  type :: UInt8.ofNat (headerLength + value.length) :: value

def octets (attr : Attribute) : Bytes := record attr.type attr.value

@[simp] theorem length_record (type : UInt8) (value : Bytes) :
    (record type value).length = headerLength + value.length := by
  simp only [record, List.length_cons, headerLength]
  omega

@[simp] theorem length_octets (attr : Attribute) : attr.octets.length = attr.encodedLength :=
  length_record attr.type attr.value

end Attribute

/-- Lengths that are summed up one by one are the length of the octets in a row. -/
theorem foldr_length_eq {α : Type} {length : α → Nat} {octets : α → Bytes}
    (h : ∀ a, (octets a).length = length a) (list : List α) :
    list.foldr (fun a sum => length a + sum) 0 = (list.flatMap octets).length := by
  induction list with
  | nil => rfl
  | cons a list ih => rw [List.foldr_cons, ih, List.flatMap_cons, List.length_append, h]

namespace Container

/-- The value of a container: the vendor, then the sub-attributes. -/
def valueOctets (container : Container) : Bytes :=
  Bytes.ofNat 4 container.vendor.toNat ++ container.attributes.flatMap Attribute.octets

def octets (container : Container) : Bytes :=
  Attribute.record AttributeType.vendorSpecific container.valueOctets

theorem encodedLength_eq (container : Container) :
    container.encodedLength = Attribute.headerLength + container.valueOctets.length := by
  rw [encodedLength, foldr_length_eq Attribute.length_octets, valueOctets, List.length_append,
    Bytes.length_ofNat, headerLength, Attribute.headerLength]
  omega

@[simp] theorem length_octets (container : Container) :
    container.octets.length = container.encodedLength := by
  rw [octets, Attribute.length_record, encodedLength_eq]

/-- The header and the sub-attributes are the whole container. -/
theorem header_append (container : Container) :
    container.header ++ container.attributes.flatMap Attribute.octets = container.octets := by
  rw [octets, Attribute.record, valueOctets, header, encodedLength_eq, valueOctets]
  rfl

/-- What fits a container is shorter than the container. -/
theorem encodedLength_lt_of_mem {container : Container} {attr : Attribute}
    (h : attr ∈ container.attributes) : attr.encodedLength < container.encodedLength := by
  have hsub : attr.octets.length ≤ (container.attributes.flatMap Attribute.octets).length := by
    obtain ⟨before, after, hsplit⟩ := List.append_of_mem h
    rw [hsplit, List.flatMap_append, List.flatMap_cons]
    simp only [List.length_append]
    omega
  rw [Attribute.length_octets] at hsub
  rw [encodedLength, foldr_length_eq Attribute.length_octets, headerLength]
  omega

end Container

namespace PacketAttribute

def octets : PacketAttribute → Bytes
  | .standard attr   => attr.octets
  | .container group => group.octets

@[simp] theorem length_octets (attr : PacketAttribute) : attr.octets.length = attr.encodedLength := by
  cases attr with
  | standard attr => exact attr.length_octets
  | container group => exact group.length_octets

end PacketAttribute

/-! ## Encoding -/

/-- Things that are all appended leave their octets in a row. -/
theorem encodeEach_eq_ok {α : Type} {encodeInto : α → Bytes → Appended} (octets : α → Bytes)
    {list : List α}
    (h : ∀ a ∈ list, ∀ buffer, encodeInto a buffer = (.ok (), buffer ++ octets a))
    (buffer : Bytes) :
    encodeEach encodeInto list buffer = (.ok (), buffer ++ list.flatMap octets) := by
  induction list generalizing buffer with
  | nil => simp [encodeEach]
  | cons a list ih =>
      rw [encodeEach, h a (by simp), List.flatMap_cons, ← List.append_assoc]
      exact ih (fun later hlater => h later (by simp [hlater])) (buffer ++ octets a)

theorem Attribute.encodeInto_eq (attr : Attribute) (buffer : Bytes) :
    attr.encodeInto buffer =
      if maxLength < attr.encodedLength then
        (.error (.attributeTooLong attr.type attr.encodedLength), buffer)
      else (.ok (), buffer ++ attr.octets) := rfl

/-- No sub-attribute of a container that fits is too long, so the encoding of a container fails
before it has written anything or not at all. -/
theorem Container.encodeInto_eq (container : Container) (buffer : Bytes) :
    container.encodeInto buffer =
      if Attribute.maxLength < container.encodedLength then
        (.error (.attributeTooLong AttributeType.vendorSpecific container.encodedLength), buffer)
      else (.ok (), buffer ++ container.octets) := by
  unfold encodeInto
  split
  · rfl
  · rename_i hfits
    rw [encodeEach_eq_ok Attribute.octets, List.append_assoc, header_append]
    intro attr hattr buffer
    have hlt := encodedLength_lt_of_mem hattr
    rw [Attribute.encodeInto_eq, if_neg (by omega)]

namespace PacketAttribute

/-- Encoding appends the octets of an attribute, or fails and leaves the buffer as it was. -/
theorem encodeInto_eq (attr : PacketAttribute) (buffer : Bytes) :
    attr.encodeInto buffer =
      if Attribute.maxLength < attr.encodedLength then
        (.error (.attributeTooLong attr.type attr.encodedLength), buffer)
      else (.ok (), buffer ++ attr.octets) := by
  cases attr with
  | standard attr => exact attr.encodeInto_eq buffer
  | container group => exact group.encodeInto_eq buffer

/-- An attribute list is appended exactly when each attribute fits the length octet. -/
theorem encodeEach_eq_ok_iff {attributes : List PacketAttribute} {buffer result : Bytes} :
    encodeEach encodeInto attributes buffer = (.ok (), result) ↔
      (∀ attr ∈ attributes, attr.encodedLength ≤ Attribute.maxLength) ∧
        result = buffer ++ attributes.flatMap octets := by
  induction attributes generalizing buffer with
  | nil => simp [encodeEach, eq_comm]
  | cons attr attributes ih =>
      rw [encodeEach, encodeInto_eq]
      by_cases hlong : Attribute.maxLength < attr.encodedLength
      · simp [hlong, Nat.not_le.mpr hlong]
      · simp [hlong, Nat.not_lt.mp hlong, ih]

theorem encodeList_eq_ok_iff {attributes : List PacketAttribute} {bytes : Bytes} :
    encodeList attributes = .ok bytes ↔
      (∀ attr ∈ attributes, attr.encodedLength ≤ Attribute.maxLength) ∧
        bytes = attributes.flatMap octets := by
  have hiff : encodeEach encodeInto attributes [] = (.ok (), bytes) ↔
      (∀ attr ∈ attributes, attr.encodedLength ≤ Attribute.maxLength) ∧
        bytes = attributes.flatMap octets := encodeEach_eq_ok_iff
  rw [← hiff, encodeList]
  rcases encodeEach encodeInto attributes [] with ⟨_ | _, buffer⟩
  · simp
  · simp

end PacketAttribute
end Radius
