-- SUMMARY: Lengths alone decide whether a packet can be encoded, and the lengths in its octets lead from each attribute to the next.
import Radius.Packet.Message
import Radius.Proofs.Attribute.Appending
import Radius.Proofs.Packet.Decoding

/-!
# Lengths on the wire

A length is written into one octet for an attribute and into two for a packet. Whatever does not fit
is refused before it is written: a packet for its own length, and if that is all right for its first
attribute that is too long. So no length on the wire has lost a bit, and whoever goes through the
octets of a packet from one length to the next meets its attributes and nothing else, in the
containers too.
-/

namespace Radius

/-! ## Walking by lengths -/

/-- A walk through octets from a place to another, with the types and lengths it meets: the second
octet of each record says how far it is to the record behind it. -/
inductive Walk (bytes : Bytes) : (place : Nat) → (met : List (UInt8 × Nat)) → (stop : Nat) → Prop
  | done {place : Nat} : Walk bytes place [] place
  | step {place stop length : Nat} {type octet : UInt8} {met : List (UInt8 × Nat)} :
      bytes[place]? = some type → bytes[place + 1]? = some octet → octet.toNat = length →
      Walk bytes (place + length) met stop → Walk bytes place ((type, length) :: met) stop

namespace Walk

/-- Where a walk stops depends only on the lengths that it meets. -/
theorem stop_unique {bytes : Bytes} {place stop stop' : Nat} {met : List (UInt8 × Nat)}
    (h : Walk bytes place met stop) (h' : Walk bytes place met stop') : stop = stop' := by
  induction h with
  | done =>
      cases h'
      rfl
  | step _ _ _ _ ih =>
      cases h' with
      | step _ _ _ hlater => exact ih hlater

/-- Records in a row are met one by one, from the first to the end of the last, wherever they
stand. -/
theorem of_records {α : Type} {octets : α → Bytes} {type : α → UInt8} {length : α → Nat}
    {records : List α}
    (h : ∀ a ∈ records, ∃ value, octets a = Attribute.record (type a) value ∧
      length a = Attribute.headerLength + value.length ∧ length a ≤ Attribute.maxLength)
    (front back : Bytes) :
    Walk (front ++ records.flatMap octets ++ back) front.length
      (records.map fun a => (type a, length a)) (front ++ records.flatMap octets).length := by
  induction records generalizing front with
  | nil =>
      rw [List.flatMap_nil, List.append_nil]
      exact .done
  | cons a records ih =>
      rw [List.forall_mem_cons] at h
      obtain ⟨⟨value, hrecord, hlength, hmax⟩, hrecords⟩ := h
      rw [Attribute.maxLength] at hmax
      have hoctet : (UInt8.ofNat (length a)).toNat = length a :=
        UInt8.toNat_ofNat_of_lt' (by rw [UInt8.size]; omega)
      have hnext : (front ++ octets a).length = front.length + length a := by
        rw [List.length_append, hrecord, Attribute.length_record, hlength]
      -- The rest of the walk starts behind this record.
      have hlater := ih hrecords (front ++ octets a)
      rw [hnext, List.append_assoc front] at hlater
      rw [List.map_cons, List.flatMap_cons]
      refine .step ?_ ?_ hoctet hlater
      · rw [hrecord]
        simp [Attribute.record]
      · rw [hrecord]
        simp [Attribute.record, hlength]

end Walk

/-! ## Records -/

namespace Attribute

/-- What a walk meets of an attribute. -/
def typeAndLength (attr : Attribute) : UInt8 × Nat := (attr.type, attr.encodedLength)

/-- Attributes that fit are met wherever they stand in a row. -/
theorem walk {attributes : List Attribute}
    (h : ∀ attr ∈ attributes, attr.encodedLength ≤ maxLength) (front back : Bytes) :
    Walk (front ++ attributes.flatMap octets ++ back) front.length
      (attributes.map typeAndLength) (front ++ attributes.flatMap octets).length :=
  Walk.of_records (fun attr hattr => ⟨attr.value, rfl, rfl, h attr hattr⟩) front back

end Attribute

namespace PacketAttribute

/-- What a walk meets of an attribute in a packet; a container shows its own type and length. -/
def typeAndLength (attr : PacketAttribute) : UInt8 × Nat := (attr.type, attr.encodedLength)

theorem walk {attributes : List PacketAttribute}
    (h : ∀ attr ∈ attributes, attr.encodedLength ≤ Attribute.maxLength) (front back : Bytes) :
    Walk (front ++ attributes.flatMap octets ++ back) front.length
      (attributes.map typeAndLength) (front ++ attributes.flatMap octets).length := by
  refine Walk.of_records (fun attr hattr => ?_) front back
  have hmax := h attr hattr
  cases attr with
  | standard attr => exact ⟨attr.value, rfl, rfl, hmax⟩
  | container group => exact ⟨group.valueOctets, rfl, group.encodedLength_eq, hmax⟩

end PacketAttribute

namespace Packet

/-! ## What is too long -/

/-- What is said of a packet that is too long: its length, or else the type and the length of the
first attribute that is too long. -/
inductive TooLong (packet : Packet) : PacketError → Prop
  | whole : 4096 < packet.encodedLength → TooLong packet (.packetTooLong packet.encodedLength)
  | part {front back : List PacketAttribute} {attr : PacketAttribute} :
      packet.encodedLength ≤ 4096 → packet.attributes = front ++ attr :: back →
      (∀ earlier ∈ front, earlier.encodedLength ≤ 255) → 255 < attr.encodedLength →
      TooLong packet (.attributeTooLong attr.type attr.encodedLength)

/-- The lengths alone decide whether there is a result, and which fault there is otherwise. -/
structure DecidedByLengths {α : Type} (packet : Packet) (outcome : Except PacketError α) :
    Prop where
  ok_iff : (∃ result, outcome = .ok result) ↔
    packet.encodedLength ≤ 4096 ∧ ∀ attr ∈ packet.attributes, attr.encodedLength ≤ 255
  error_iff : ∀ fault, outcome = .error fault ↔ packet.TooLong fault

theorem frame_eq_error_iff {packet : Packet} {authenticator : Block} {fault : PacketError} :
    packet.frame authenticator = .error fault ↔ packet.TooLong fault := by
  unfold frame
  by_cases hlong : maxLength < packet.encodedLength
  · rw [if_pos hlong]
    constructor
    · intro h
      cases h
      exact .whole hlong
    · rintro (_ | ⟨hwhole, -⟩)
      · rfl
      · exact absurd hlong (Nat.not_lt.mpr hwhole)
  · rw [if_neg hlong]
    have herror := @PacketAttribute.encodeEach_eq_error_iff packet.attributes
      (packet.header ++ authenticator.bytes)
    constructor
    · intro h
      rcases hencode : encodeEach PacketAttribute.encodeInto packet.attributes
        (packet.header ++ authenticator.bytes) with ⟨cause | _, left⟩
      · rw [hencode] at h
        cases h
        obtain ⟨front, attr, back, hattributes, hfront, hattr, rfl, -⟩ := herror.mp hencode
        exact .part (Nat.not_lt.mp hlong) hattributes hfront hattr
      · rw [hencode] at h
        cases h
    · rintro (hwhole | ⟨-, hattributes, hfront, hattr⟩)
      · exact absurd hwhole hlong
      · rw [herror.mpr ⟨_, _, _, hattributes, hfront, hattr, rfl, rfl⟩]

section

variable {packet : Packet}

theorem DecidedByLengths.map {α β : Type} {outcome : Except PacketError α}
    (h : packet.DecidedByLengths outcome) (f : α → β) :
    packet.DecidedByLengths (outcome.map f) := by
  refine ⟨?_, fun fault => Except.map_eq_error_iff.trans (h.error_iff fault)⟩
  rw [← h.ok_iff]
  simp only [Except.map_eq_ok_iff]
  constructor
  · rintro ⟨_, result, hresult, -⟩
    exact ⟨result, hresult⟩
  · rintro ⟨result, hresult⟩
    exact ⟨f result, result, hresult, rfl⟩

theorem decided_frame (packet : Packet) (authenticator : Block) :
    packet.DecidedByLengths (packet.frame authenticator) := by
  refine ⟨?_, fun fault => frame_eq_error_iff⟩
  simp only [frame_eq_ok_iff, exists_and_left, exists_eq, and_true]
  rfl

theorem decided_encode {authenticator : Block} (h : packet.authenticator = some authenticator) :
    packet.DecidedByLengths packet.encode := by
  rw [encode, h]
  exact packet.decided_frame authenticator

theorem decided_sign (packet : Packet) (authenticate : (header attributes : Bytes) → Block) :
    packet.DecidedByLengths (packet.sign authenticate) :=
  (packet.decided_frame _).map _

theorem decided_authenticate (packet : Packet) (drawn : Block) :
    packet.DecidedByLengths (packet.authenticate drawn) :=
  (packet.decided_frame (packet.authenticator.getD drawn)).map _

/-! ## Walking through a packet -/

variable (hfits : packet.Fits) (authenticator : Block)
include hfits

theorem walk_octets :
    Walk (packet.octets authenticator) 20 (packet.attributes.map PacketAttribute.typeAndLength)
      (packet.octets authenticator).length := by
  have hwalk := PacketAttribute.walk hfits.2 (packet.header ++ authenticator.bytes) []
  have hfront : (packet.header ++ authenticator.bytes).length = 20 := by simp
  rwa [List.append_nil, hfront] at hwalk

/-- Behind the header of a container the walk goes on through its sub-attributes, up to the end of
the container. -/
theorem walk_container {front back : List PacketAttribute} {group : Container}
    (hattributes : packet.attributes = front ++ .container group :: back) {place : Nat}
    (hplace : Walk (packet.octets authenticator) 20 (front.map PacketAttribute.typeAndLength)
      place) :
    Walk (packet.octets authenticator) (place + 6) (group.attributes.map Attribute.typeAndLength)
      (place + group.encodedLength) := by
  have hmax := hfits.2
  rw [hattributes, List.forall_mem_append, List.forall_mem_cons] at hmax
  obtain ⟨hfront, hgroup, -⟩ := hmax
  have hchildren : ∀ child ∈ group.attributes, child.encodedLength ≤ Attribute.maxLength :=
    fun child hchild => (Container.encodedLength_lt_of_mem hchild).le.trans hgroup
  generalize hbefore : packet.header ++ authenticator.bytes ++
    front.flatMap PacketAttribute.octets = before
  have hoctets : packet.octets authenticator =
      before ++ group.octets ++ back.flatMap PacketAttribute.octets := by
    rw [octets, attributeOctets, hattributes, ← hbefore]
    simp [PacketAttribute.octets]
  have hstop : place = before.length := by
    have hwalk := PacketAttribute.walk hfront (packet.header ++ authenticator.bytes)
      (group.octets ++ back.flatMap PacketAttribute.octets)
    have hstart : (packet.header ++ authenticator.bytes).length = 20 := by simp
    rw [hbefore, hstart, ← List.append_assoc, ← hoctets] at hwalk
    exact hplace.stop_unique hwalk
  have hwalk := Attribute.walk hchildren (before ++ group.header)
    (back.flatMap PacketAttribute.octets)
  have hheader : (before ++ group.header).length = place + 6 := by
    rw [List.length_append, hstop]
    rfl
  rw [List.append_assoc before, group.header_append, ← hoctets, hheader, List.length_append,
    group.length_octets, ← hstop] at hwalk
  exact hwalk

end

/-- A packet is encoded exactly if it has at most 4096 octets and none of its attributes more than
255; otherwise the fault names the length of the packet, or else type and length of the first
attribute that is too long. The same decides about signing, and about the requests that carry no
credentials. The octets are as many as the length says that is written in them, and their lengths
lead through all attributes up to the end, and inside each container through all of its own. -/
theorem encoding_keeps_lengths (packet : Packet) :
    (∀ authenticator, packet.authenticator = some authenticator →
      packet.DecidedByLengths packet.encode) ∧
    (∀ bytes, packet.encode = .ok bytes →
      bytes.length = packet.encodedLength ∧
      Bytes.toNat (bytes.slice 2 4) = packet.encodedLength ∧
      Walk bytes 20 (packet.attributes.map PacketAttribute.typeAndLength) bytes.length ∧
      ∀ front group back place, packet.attributes = front ++ .container group :: back →
        Walk bytes 20 (front.map PacketAttribute.typeAndLength) place →
        Walk bytes (place + 6) (group.attributes.map Attribute.typeAndLength)
          (place + group.encodedLength)) ∧
    ∀ (hash : Hash) (secret : Bytes),
      (∀ message : Message, message.packet = packet → ∀ request,
        packet.DecidedByLengths (message.encodeResponse hash secret request)) ∧
      ∀ draws,
        packet.DecidedByLengths ((Message.accounting packet).encodeRequest hash draws secret) ∧
        packet.DecidedByLengths ((Message.generic packet).encodeRequest hash draws secret) := by
  refine ⟨fun _ => decided_encode, fun bytes hencoded => ?_, fun hash secret => ⟨?_, ?_⟩⟩
  · obtain ⟨authenticator, -, hfits, rfl⟩ := encode_eq_ok_iff.mp hencoded
    refine ⟨packet.length_octets authenticator, Frame.declaredLength_octets hfits.1 authenticator,
      walk_octets hfits authenticator, fun front group back place hattributes hplace => ?_⟩
    exact walk_container hfits authenticator hattributes hplace
  · rintro message rfl request
    exact (message.packet.decided_sign _).map _
  · intro draws
    exact ⟨(packet.decided_sign _).map _, (packet.decided_authenticate _).map _⟩

/-! ## Sample packets -/

namespace Sample

def name : PacketAttribute := .standard ⟨none, 1, [0x6e, 0x65, 0x6d, 0x6f]⟩

/-- A container of 255 octets. -/
def longest : Container := ⟨9, [.ofVendor 9 7 [], .ofVendor 9 8 (List.replicate 245 0)]⟩

/-- One octet more. -/
def tooLong : Container := ⟨9, [.ofVendor 9 7 [], .ofVendor 9 8 (List.replicate 246 0)]⟩

def full : Packet where
  code := .accessAccept
  identifier := 5
  authenticator := some Message.Sample.authenticator
  attributes := [name, .container longest, .standard ⟨none, 79, List.replicate 253 0⟩]

/-- What is wrong with the last attribute is not told. -/
def overfull : Packet :=
  { full with
    attributes := [name, .container tooLong, .standard ⟨none, 79, List.replicate 300 0⟩] }

/-- Both the packet and its attribute are too long. -/
def oversized : Packet :=
  { full with attributes := [.standard ⟨none, 79, List.replicate 4100 0⟩] }

end Sample

theorem sample_encoding_keeps_lengths :
    (∃ bytes, Sample.full.encode = .ok bytes ∧
      bytes.length = 536 ∧ Bytes.toNat (bytes.slice 2 4) = 536 ∧
      Walk bytes 20 [(1, 6), (26, 255), (79, 255)] bytes.length ∧
      Walk bytes 32 [(7, 2), (8, 247)] 281) ∧
    Sample.overfull.encode = .error (.attributeTooLong 26 256) ∧
    Sample.oversized.encode = .error (.packetTooLong 4122) ∧
    ∀ hash secret request, ∃ response,
      (Message.generic Sample.full).encodeResponse hash secret request = .ok response := by
  obtain ⟨hdecided, hencoded, hsigned⟩ := encoding_keeps_lengths Sample.full
  obtain ⟨hoverfull, -⟩ := encoding_keeps_lengths Sample.overfull
  obtain ⟨hoversized, -⟩ := encoding_keeps_lengths Sample.oversized
  have hfits : Sample.full.encodedLength ≤ 4096 ∧
      ∀ attr ∈ Sample.full.attributes, attr.encodedLength ≤ 255 := by decide +kernel
  refine ⟨?_, ?_, ?_, fun hash secret request => ?_⟩
  · obtain ⟨bytes, hbytes⟩ := (hdecided _ rfl).ok_iff.mpr hfits
    obtain ⟨hlength, hwritten, hwalk, hcontainer⟩ := hencoded bytes hbytes
    have htotal : Sample.full.encodedLength = 536 := by decide +kernel
    have hmet : Sample.full.attributes.map PacketAttribute.typeAndLength =
        [(1, 6), (26, 255), (79, 255)] := by decide +kernel
    rw [htotal] at hlength hwritten
    rw [hmet] at hwalk
    refine ⟨bytes, hbytes, hlength, hwritten, hwalk, ?_⟩
    -- The container stands behind the first attribute.
    have hplace : Walk bytes 20 [(1, 6)] 26 := by
      cases hwalk with
      | step htype hoctet hsix _ => exact .step htype hoctet hsix .done
    have hinside := hcontainer [_] Sample.longest _ 26 rfl hplace
    have hmetInside : Sample.longest.attributes.map Attribute.typeAndLength =
        [(7, 2), (8, 247)] := by decide +kernel
    have hlongest : Sample.longest.encodedLength = 255 := by decide +kernel
    rwa [hmetInside, hlongest] at hinside
  · have hlength : (PacketAttribute.container Sample.tooLong).encodedLength = 256 := by
      decide +kernel
    have hwhole : Sample.overfull.encodedLength ≤ 4096 := by decide +kernel
    have hsplit : Sample.overfull.attributes =
        [Sample.name] ++ .container Sample.tooLong ::
          [.standard ⟨none, 79, List.replicate 300 0⟩] := rfl
    have hname : ∀ earlier ∈ [Sample.name], earlier.encodedLength ≤ 255 := by decide +kernel
    have hfault := TooLong.part hwhole hsplit hname (by rw [hlength]; decide)
    rw [hlength] at hfault
    exact ((hoverfull _ rfl).error_iff _).mpr hfault
  · have hlength : Sample.oversized.encodedLength = 4122 := by decide +kernel
    have hfault := TooLong.whole (by rw [hlength]; decide : 4096 < Sample.oversized.encodedLength)
    rw [hlength] at hfault
    exact ((hoversized _ rfl).error_iff _).mpr hfault
  · exact ((hsigned hash secret).1 _ rfl request).ok_iff.mpr hfits

end Packet
end Radius
