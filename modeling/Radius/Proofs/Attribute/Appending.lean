-- SUMMARY: Encoding attributes is all or nothing: one that is too long leaves no octet behind, and a list stops at the first of these.
import Radius.Proofs.Attribute.Octets

/-!
# Appending attributes

A container writes its header before it comes to its sub-attributes, and each of those is checked
again. The check never fails there: the sub-attributes of a container are shorter than the
container, which has been checked before the header was written. So an attribute is appended as a
whole or not at all, and what a list leaves behind when it fails are the attributes in front of the
first one that is too long.
-/

namespace Radius

namespace Container

/-- Wherever the encoding of a container has come to, the sub-attributes in front have been
appended and the next one is no reason to stop. -/
theorem encodeInto_of_mem {container : Container} (hfits : container.encodedLength ≤ 255)
    {front back : List Attribute} {attr : Attribute}
    (hattributes : container.attributes = front ++ attr :: back) (buffer : Bytes) :
    ∃ written,
      encodeEach Attribute.encodeInto front (buffer ++ container.header) = (.ok (), written) ∧
      attr.encodeInto written = (.ok (), written ++ attr.octets) := by
  have hencoded : ∀ child ∈ container.attributes, ∀ buffer,
      child.encodeInto buffer = (.ok (), buffer ++ child.octets) := by
    intro child hchild buffer
    have hshorter := encodedLength_lt_of_mem hchild
    rw [Attribute.encodeInto_eq, if_neg (by rw [Attribute.maxLength]; omega)]
  rw [hattributes] at hencoded
  refine ⟨_, encodeEach_eq_ok Attribute.octets ?_ _, hencoded attr (by simp) _⟩
  intro child hchild
  exact hencoded child (List.mem_append_left _ hchild)

end Container

namespace PacketAttribute

/-! ## Lists -/

/-- An attribute list fails at an attribute that is too long, behind the octets of those in front
of it. -/
theorem encodeEach_of_tooLong {front : List PacketAttribute} {attr : PacketAttribute}
    (hfront : ∀ earlier ∈ front, earlier.encodedLength ≤ Attribute.maxLength)
    (hattr : Attribute.maxLength < attr.encodedLength) (back : List PacketAttribute)
    (buffer : Bytes) :
    encodeEach encodeInto (front ++ attr :: back) buffer =
      (.error (.attributeTooLong attr.type attr.encodedLength), buffer ++ front.flatMap octets) := by
  induction front generalizing buffer with
  | nil => simp [encodeEach, encodeInto_eq, hattr]
  | cons first front ih =>
      rw [List.forall_mem_cons] at hfront
      simp [encodeEach, encodeInto_eq, Nat.not_lt.mpr hfront.1, ih hfront.2]

/-- Among attributes that do not all fit there is a first one that does not. -/
theorem exists_first_tooLong {attributes : List PacketAttribute}
    (h : ¬ ∀ attr ∈ attributes, attr.encodedLength ≤ Attribute.maxLength) :
    ∃ front attr back, attributes = front ++ attr :: back ∧
      (∀ earlier ∈ front, earlier.encodedLength ≤ Attribute.maxLength) ∧
      Attribute.maxLength < attr.encodedLength := by
  have hfound : (attributes.find? (Attribute.maxLength < ·.encodedLength)).isSome := by
    simpa [Nat.not_le] using h
  obtain ⟨attr, hattr⟩ := Option.isSome_iff_exists.mp hfound
  obtain ⟨hlong, front, back, hattributes, hfront⟩ := List.find?_eq_some_iff_append.mp hattr
  exact ⟨front, attr, back, hattributes, by simpa [Nat.not_lt] using hfront, by simpa using hlong⟩

theorem encodeEach_eq_error_iff {attributes : List PacketAttribute} {buffer left : Bytes}
    {fault : PacketError} :
    encodeEach encodeInto attributes buffer = (.error fault, left) ↔
      ∃ front attr back, attributes = front ++ attr :: back ∧
        (∀ earlier ∈ front, earlier.encodedLength ≤ Attribute.maxLength) ∧
        Attribute.maxLength < attr.encodedLength ∧
        fault = .attributeTooLong attr.type attr.encodedLength ∧
        left = buffer ++ front.flatMap octets := by
  constructor
  · intro h
    by_cases hfits : ∀ attr ∈ attributes, attr.encodedLength ≤ Attribute.maxLength
    · rw [encodeEach_eq_ok_iff.mpr ⟨hfits, rfl⟩] at h
      cases h
    · obtain ⟨front, attr, back, rfl, hfront, hattr⟩ := exists_first_tooLong hfits
      rw [encodeEach_of_tooLong hfront hattr] at h
      cases h
      exact ⟨front, attr, back, rfl, hfront, hattr, rfl, rfl⟩
  · rintro ⟨front, attr, back, rfl, hfront, hattr, rfl, rfl⟩
    exact encodeEach_of_tooLong hfront hattr back buffer

/-! ## One attribute -/

/-- Whether an attribute is appended depends on its length alone, and which octets are appended
depends on the attribute alone, as many of them as its length says; otherwise the buffer is left as
it was. When the header of a container has been written, none of its sub-attributes fails. -/
theorem encoding_is_all_or_nothing :
    (∀ attr : PacketAttribute, ∃ appended : Bytes, appended.length = attr.encodedLength ∧
      ∀ buffer,
        ((∃ left, attr.encodeInto buffer = (.ok (), left)) ↔ attr.encodedLength ≤ 255) ∧
        (∀ left, attr.encodeInto buffer = (.ok (), left) → left = buffer ++ appended) ∧
        ∀ fault left, attr.encodeInto buffer = (.error fault, left) → left = buffer) ∧
    ∀ (container : Container) (front back : List Attribute) (attr : Attribute) (buffer : Bytes),
      container.encodedLength ≤ 255 → container.attributes = front ++ attr :: back →
      ∃ written left,
        encodeEach Attribute.encodeInto front (buffer ++ container.header) = (.ok (), written) ∧
        attr.encodeInto written = (.ok (), left) := by
  constructor
  · intro attr
    refine ⟨attr.octets, attr.length_octets, fun buffer => ?_⟩
    rw [encodeInto_eq, Attribute.maxLength]
    by_cases hlong : 255 < attr.encodedLength
    · simp [hlong, eq_comm]
    · simp [hlong, Nat.not_lt.mp hlong, eq_comm]
  · intro container front back attr buffer hfits hattributes
    obtain ⟨written, hwritten, hattr⟩ := Container.encodeInto_of_mem hfits hattributes buffer
    exact ⟨written, _, hwritten, hattr⟩

/-! ## Sample containers

Both hold an empty sub-attribute of the type of containers and a long one behind it. -/

namespace Sample

def behind : Attribute := .ofVendor 9 1 (List.replicate 245 0x61)

/-- The length octet says 255. -/
def filled : Container := ⟨9, [.ofVendor 9 26 [], behind]⟩

/-- One octet more. -/
def overfilled : Container := ⟨9, [.ofVendor 9 26 [], .ofVendor 9 1 (List.replicate 246 0x61)]⟩

end Sample

theorem sample_encoding_is_all_or_nothing :
    (Sample.filled.encodedLength = 255 ∧
      Sample.filled.attributes = [.ofVendor 9 26 []] ++ Sample.behind :: [] ∧
      ∃ written left,
        encodeEach Attribute.encodeInto [.ofVendor 9 26 []] ([0xff] ++ Sample.filled.header) =
          (.ok (), written) ∧
        Sample.behind.encodeInto written = (.ok (), left)) ∧
    (∃ appended : Bytes, appended.length = 255 ∧
      ∀ buffer, (container Sample.filled).encodeInto buffer = (.ok (), buffer ++ appended)) ∧
    ∃ fault, (container Sample.overfilled).encodeInto [0xff] = (.error fault, [0xff]) := by
  obtain ⟨hattribute, hloop⟩ := encoding_is_all_or_nothing
  have hfilled : Sample.filled.encodedLength = 255 := by decide +kernel
  have hoverfilled : ¬ (container Sample.overfilled).encodedLength ≤ 255 := by decide +kernel
  refine ⟨⟨hfilled, rfl, hloop _ _ _ _ _ hfilled.le rfl⟩, ?_, ?_⟩
  · obtain ⟨appended, hlength, happended⟩ := hattribute (container Sample.filled)
    refine ⟨appended, hlength.trans hfilled, fun buffer => ?_⟩
    obtain ⟨hiff, hwritten, -⟩ := happended buffer
    obtain ⟨left, hleft⟩ := hiff.mpr hfilled.le
    rw [hleft, hwritten left hleft]
  · obtain ⟨_, -, happended⟩ := hattribute (container Sample.overfilled)
    obtain ⟨hiff, -, hkept⟩ := happended [0xff]
    rcases houtcome : (container Sample.overfilled).encodeInto [0xff] with ⟨fault | _, left⟩
    · exact ⟨fault, by rw [hkept fault left houtcome]⟩
    · exact absurd (hiff.mp ⟨left, houtcome⟩) hoverfilled

end PacketAttribute
end Radius
