-- SUMMARY: The octets of a packet as a pure layout, and encoding and signing as this layout for packets whose lengths fit.
import Radius.Packet.Frame
import Radius.Proofs.Attribute.Octets
import Radius.Proofs.Outcome

/-!
# Octets of packets

`octets` lays a packet out around an authenticator without asking whether anything
is too long. `Fits` is what encoding asks: 4096 octets in all and 255 in each
attribute. Every way of encoding or signing a packet succeeds exactly when it fits,
and reads the header and the attributes back from this layout.
-/

namespace Radius.Packet

/-! ## Layout -/

/-- The octets behind the authenticator. -/
def attributeOctets (packet : Packet) : Bytes := packet.attributes.flatMap PacketAttribute.octets

/-- The packet on the wire with this authenticator. -/
def octets (packet : Packet) (authenticator : Block) : Bytes :=
  packet.header ++ authenticator.bytes ++ packet.attributeOctets

/-- The lengths are those that the wire can carry. -/
def Fits (packet : Packet) : Prop :=
  packet.encodedLength ≤ maxLength ∧
    ∀ attr ∈ packet.attributes, attr.encodedLength ≤ Attribute.maxLength

theorem encodedLength_eq (packet : Packet) :
    packet.encodedLength = packetHeaderLength + packet.attributeOctets.length := by
  rw [encodedLength, foldr_length_eq PacketAttribute.length_octets, attributeOctets]

@[simp] theorem length_header (packet : Packet) : packet.header.length = 4 := by
  simp [header]

@[simp] theorem length_octets (packet : Packet) (authenticator : Block) :
    (packet.octets authenticator).length = packet.encodedLength := by
  simp only [octets, List.length_append, length_header, Octets.length_bytes, encodedLength_eq,
    packetHeaderLength]

@[simp] theorem take_octets (packet : Packet) (authenticator : Block) :
    (packet.octets authenticator).take 4 = packet.header := by
  rw [octets, List.append_assoc]
  exact List.take_left' packet.length_header

@[simp] theorem drop_octets (packet : Packet) (authenticator : Block) :
    (packet.octets authenticator).drop packetHeaderLength = packet.attributeOctets := by
  rw [octets]
  exact List.drop_left' (by simp [packetHeaderLength])

/-- The authenticator stands between the header and the attributes. -/
theorem ofPrefix_octets (packet : Packet) (authenticator : Block) :
    Octets.ofPrefix 16 ((packet.octets authenticator).drop 4) = authenticator := by
  have hdrop : (packet.octets authenticator).drop 4 =
      authenticator.bytes ++ packet.attributeOctets := by
    rw [octets, List.append_assoc]
    exact List.drop_left' packet.length_header
  apply Octets.ext
  rw [Octets.bytes_ofPrefix (by simp [hdrop]), hdrop]
  exact List.take_left' authenticator.length_bytes

/-- What is signed of a packet are its octets with another block in the authenticator's place. -/
theorem signedMessage_octets (packet : Packet) (request authenticator : Block) (secret : Bytes) :
    Authenticator.signedMessage packet.header request packet.attributeOctets secret =
      (packet.octets authenticator).take 4 ++ request.bytes ++
        (packet.octets authenticator).drop 20 ++ secret := by
  rw [← packetHeaderLength, take_octets, drop_octets]
  rfl

/-! ## A packet with another authenticator -/

section

variable (packet : Packet) (authenticator : Block)

@[simp] theorem withAuthenticator_authenticator :
    (packet.withAuthenticator authenticator).authenticator = some authenticator := rfl

@[simp] theorem withAuthenticator_fits :
    (packet.withAuthenticator authenticator).Fits ↔ packet.Fits := Iff.rfl

end

/-! ## Encoding -/

theorem frame_eq_ok_iff {packet : Packet} {authenticator : Block} {bytes : Bytes} :
    packet.frame authenticator = .ok bytes ↔ packet.Fits ∧ bytes = packet.octets authenticator := by
  have hiff : encodeEach PacketAttribute.encodeInto packet.attributes
      (packet.header ++ authenticator.bytes) = (.ok (), bytes) ↔
        (∀ attr ∈ packet.attributes, attr.encodedLength ≤ Attribute.maxLength) ∧
          bytes = packet.octets authenticator := PacketAttribute.encodeEach_eq_ok_iff
  unfold frame Fits
  by_cases hlong : maxLength < packet.encodedLength
  · simp [hlong, Nat.not_le.mpr hlong]
  · rw [if_neg hlong]
    rcases hencode : encodeEach PacketAttribute.encodeInto packet.attributes
      (packet.header ++ authenticator.bytes) with ⟨_ | _, buffer⟩
    · simpa [hencode, hlong, Nat.not_lt.mp hlong] using hiff
    · simpa [hencode, hlong, Nat.not_lt.mp hlong] using hiff

theorem frame_eq_ok {packet : Packet} (h : packet.Fits) (authenticator : Block) :
    packet.frame authenticator = .ok (packet.octets authenticator) :=
  frame_eq_ok_iff.mpr ⟨h, rfl⟩

theorem encode_eq_ok_iff {packet : Packet} {bytes : Bytes} :
    packet.encode = .ok bytes ↔
      ∃ authenticator, packet.authenticator = some authenticator ∧ packet.Fits ∧
        bytes = packet.octets authenticator := by
  unfold encode
  cases packet.authenticator with
  | none => simp
  | some authenticator => simp [frame_eq_ok_iff]

theorem encode_withAuthenticator {packet : Packet} (h : packet.Fits) (authenticator : Block) :
    (packet.withAuthenticator authenticator).encode = .ok (packet.octets authenticator) :=
  encode_eq_ok_iff.mpr ⟨authenticator, rfl, h, rfl⟩

/-! ## Signing -/

/-- Signing computes the authenticator from the very octets that the packet is sent with. -/
theorem sign_eq_ok_iff {packet signed : Packet}
    {authenticate : (header attributes : Bytes) → Block} :
    packet.sign authenticate = .ok signed ↔
      packet.Fits ∧
        signed = packet.withAuthenticator (authenticate packet.header packet.attributeOctets) := by
  unfold sign
  rw [Except.map_eq_ok_iff]
  constructor
  · rintro ⟨bytes, hframe, rfl⟩
    obtain ⟨hfits, rfl⟩ := frame_eq_ok_iff.mp hframe
    rw [take_octets, drop_octets]
    exact ⟨hfits, rfl⟩
  · rintro ⟨hfits, rfl⟩
    refine ⟨packet.octets (Octets.zero 16), frame_eq_ok hfits _, ?_⟩
    rw [take_octets, drop_octets]

/-- The packet gets the drawn authenticator only if it has none. -/
theorem authenticate_eq_ok_iff {packet authenticated : Packet} {drawn : Block} :
    packet.authenticate drawn = .ok authenticated ↔
      packet.Fits ∧
        authenticated = packet.withAuthenticator (packet.authenticator.getD drawn) := by
  unfold authenticate
  rw [Except.map_eq_ok_iff]
  constructor
  · rintro ⟨bytes, hframe, rfl⟩
    exact ⟨(frame_eq_ok_iff.mp hframe).1, rfl⟩
  · rintro ⟨hfits, rfl⟩
    exact ⟨_, frame_eq_ok ((withAuthenticator_fits packet _).mpr hfits) _, rfl⟩

end Radius.Packet
