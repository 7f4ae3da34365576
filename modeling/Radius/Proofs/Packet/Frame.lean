-- SUMMARY: A datagram is taken apart exactly when it starts with the octets of a canonical packet.
import Radius.Packet.Datagram
import Radius.Proofs.Attribute.Codec
import Radius.Proofs.Packet.Octets

/-!
# Frames of datagrams

`Frame.ofBytes_eq_ok_iff` says at the level of datagrams what the attribute codec says
of attribute lists: a frame is taken off a datagram exactly when its packet is canonical,
fits, and has octets that the datagram starts with. What the datagram declares as its
length is then the length of these octets, and nothing behind them matters.
-/

namespace Radius

/-- The wire can carry each attribute. -/
def Packet.Canonical (packet : Packet) : Prop := ∀ attr ∈ packet.attributes, attr.Canonical

theorem Packet.Canonical.fits {packet : Packet} (h : packet.Canonical)
    (hlength : packet.encodedLength ≤ maxLength) : packet.Fits :=
  ⟨hlength, fun attr hattr => (h attr hattr).encodedLength_le⟩

namespace Frame

/-! ## The declared length -/

theorem declaredLength_append {datagram : Bytes} (h : packetHeaderLength ≤ datagram.length)
    (tail : Bytes) : declaredLength (datagram ++ tail) = declaredLength datagram := by
  rw [packetHeaderLength] at h
  rw [declaredLength, declaredLength, Bytes.slice, Bytes.slice,
    List.take_append_of_le_length (by omega)]

/-- A packet that is not too long declares its own length. -/
theorem declaredLength_octets {packet : Packet} (h : packet.encodedLength ≤ Packet.maxLength)
    (authenticator : Block) :
    declaredLength (packet.octets authenticator) = packet.encodedLength := by
  have hslice : (packet.octets authenticator).slice 2 4 = Bytes.ofNat 2 packet.encodedLength := by
    rw [Bytes.slice, Packet.take_octets]
    rfl
  rw [Packet.maxLength] at h
  rw [declaredLength, hslice, Bytes.toNat_ofNat (by omega)]

/-- The first four octets of a datagram are code, identifier and declared length. -/
theorem take_header {code identifier : UInt8} {rest : Bytes} (h : 2 ≤ rest.length) :
    (code :: identifier :: rest).take 4 =
      code :: identifier :: Bytes.ofNat 2 (declaredLength (code :: identifier :: rest)) := by
  have hslice : Bytes.slice (code :: identifier :: rest) 2 4 = rest.take 2 := rfl
  have htwo : (rest.take 2).length = 2 := by
    rw [List.length_take]
    omega
  have hread := Bytes.ofNat_toNat (rest.take 2)
  rw [htwo] at hread
  rw [declaredLength, hslice, hread]
  rfl

/-! ## Frames and octets -/

theorem encodedLength_packet (frame : Frame) :
    frame.packet.encodedLength =
      packetHeaderLength + (frame.attributes.flatMap PacketAttribute.octets).length :=
  frame.packet.encodedLength_eq

theorem header_packet (frame : Frame) :
    frame.packet.header =
      frame.code :: frame.identifier :: Bytes.ofNat 2 frame.packet.encodedLength := by
  rw [Packet.header, packet, Code.toUInt8_ofUInt8]

/-- What is checked of a datagram, and where the parts of its frame come from. -/
structure Taken (datagram : Bytes) (frame : Frame) : Prop where
  min_le : packetHeaderLength ≤ declaredLength datagram
  le_max : declaredLength datagram ≤ Packet.maxLength
  le_length : declaredLength datagram ≤ datagram.length
  header_eq : datagram.take 4 =
    frame.code :: frame.identifier :: Bytes.ofNat 2 (declaredLength datagram)
  bytes_eq : frame.bytes = datagram.take (declaredLength datagram)
  authenticator_eq : frame.authenticator = Octets.ofPrefix 16 (frame.bytes.drop 4)
  decode_eq : decodeAttributes (frame.bytes.drop packetHeaderLength) = .ok frame.attributes

theorem taken_of_ofBytes {datagram : Bytes} {frame : Frame}
    (h : Frame.ofBytes datagram = .ok frame) : Taken datagram frame := by
  unfold ofBytes at h
  split at h
  case h_2 => cases h
  rename_i code identifier rest
  dsimp only at h
  split at h
  · cases h
  split at h
  · cases h
  split at h
  · cases h
  rename_i hheader hlength hshort
  rw [not_or, Nat.not_lt, Nat.not_lt] at hlength
  have hrest : 2 ≤ rest.length := by
    simp only [packetHeaderLength, List.length_cons] at hheader
    omega
  obtain ⟨attributes, hdecode, rfl⟩ := Except.map_eq_ok_iff.mp h
  exact ⟨hlength.1, hlength.2, Nat.not_lt.mp hshort, take_header hrest, rfl, rfl, hdecode⟩

theorem Taken.ofBytes_eq {datagram : Bytes} {frame : Frame} (h : Taken datagram frame) :
    Frame.ofBytes datagram = .ok frame := by
  obtain ⟨code, identifier, authenticator, attributes, bytes⟩ := frame
  obtain ⟨hmin, hmax, hlength, hheader, hbytes, hauthenticator, hdecode⟩ := h
  dsimp only at hheader hbytes hauthenticator hdecode
  subst hbytes hauthenticator
  match datagram with
  | [] | [_] => cases hheader
  | code' :: identifier' :: rest =>
      simp only [List.take_succ_cons, List.cons.injEq] at hheader
      obtain ⟨rfl, rfl, -⟩ := hheader
      simp only [ofBytes]
      rw [if_neg (by omega), if_neg (by omega), if_neg (by omega), hdecode]
      rfl

/-- The frame of a datagram holds the octets of a canonical packet. -/
theorem octets_of_ofBytes {datagram : Bytes} {frame : Frame}
    (h : Frame.ofBytes datagram = .ok frame) :
    frame.packet.Canonical ∧ frame.packet.encodedLength = declaredLength datagram ∧
      frame.bytes = frame.packet.octets frame.authenticator := by
  obtain ⟨hmin, -, hmax, hheader, hbytes, hauthenticator, hdecode⟩ := taken_of_ofBytes h
  obtain ⟨hcanonical, hattributes⟩ := decodeAttributes_eq_ok_iff.mp hdecode
  rw [packetHeaderLength] at hmin
  have hlength : frame.bytes.length = declaredLength datagram := by
    rw [hbytes, List.length_take]
    omega
  have hencoded : frame.packet.encodedLength = declaredLength datagram := by
    rw [encodedLength_packet, ← hattributes, List.length_drop, packetHeaderLength]
    omega
  refine ⟨hcanonical, hencoded, ?_⟩
  have hfront : frame.bytes.take 4 = frame.packet.header := by
    rw [header_packet, hencoded, ← hheader, hbytes, List.take_take, Nat.min_eq_left (by omega)]
  have hmiddle : (frame.bytes.drop 4).take 16 = frame.authenticator.bytes := by
    rw [hauthenticator, Octets.bytes_ofPrefix (by rw [List.length_drop]; omega)]
  calc
    frame.bytes = frame.bytes.take 4 ++ ((frame.bytes.drop 4).take 16 ++ frame.bytes.drop 20) := by
      rw [← List.drop_drop (i := 16) (j := 4), List.take_append_drop, List.take_append_drop]
    _ = frame.packet.octets frame.authenticator := by
      rw [hfront, hmiddle, ← List.append_assoc]
      exact congrArg _ hattributes

/-- The octets of a canonical packet are taken apart into its frame, whatever follows them. -/
theorem ofBytes_octets {frame : Frame} (hcanonical : frame.packet.Canonical)
    (hlength : frame.packet.encodedLength ≤ Packet.maxLength)
    (hbytes : frame.bytes = frame.packet.octets frame.authenticator) (tail : Bytes) :
    Frame.ofBytes (frame.bytes ++ tail) = .ok frame := by
  have hencoded := frame.encodedLength_packet
  have hwhole : frame.bytes.length = frame.packet.encodedLength := by
    rw [hbytes, Packet.length_octets]
  have hdeclared : declaredLength (frame.bytes ++ tail) = frame.packet.encodedLength := by
    rw [declaredLength_append (by omega), hbytes, declaredLength_octets hlength]
  apply Taken.ofBytes_eq
  refine ⟨by omega, by omega, by rw [List.length_append]; omega, ?_, ?_, ?_, ?_⟩
  · rw [hdeclared, ← header_packet, List.take_append_of_le_length (by
      rw [packetHeaderLength] at hencoded; omega), hbytes, Packet.take_octets]
  · rw [hdeclared, List.take_left' hwhole]
  · rw [hbytes, Packet.ofPrefix_octets]
  · rw [hbytes, Packet.drop_octets, decodeAttributes_eq_ok_iff]
    exact ⟨hcanonical, rfl⟩

theorem ofBytes_eq_ok_iff {datagram : Bytes} {frame : Frame} :
    Frame.ofBytes datagram = .ok frame ↔
      frame.packet.Canonical ∧ frame.packet.encodedLength ≤ Packet.maxLength ∧
        frame.bytes = frame.packet.octets frame.authenticator ∧ frame.bytes <+: datagram := by
  constructor
  · intro h
    have htaken := taken_of_ofBytes h
    obtain ⟨hcanonical, hencoded, hoctets⟩ := octets_of_ofBytes h
    exact ⟨hcanonical, hencoded ▸ htaken.le_max, hoctets, htaken.bytes_eq ▸ List.take_prefix _ _⟩
  · rintro ⟨hcanonical, hlength, hbytes, tail, rfl⟩
    exact ofBytes_octets hcanonical hlength hbytes tail

end Frame
end Radius
