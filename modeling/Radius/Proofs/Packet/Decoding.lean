-- SUMMARY: What the two decoders accept: a canonical packet whose octets are the datagram up to its declared length.
import Radius.Digest.Md5
import Radius.Proofs.Packet.Frame

/-!
# Decoding datagrams

Both decoders take a frame off the datagram, check it, and keep its packet as it is:
recovering credentials fills in what stands beside the packet. A message therefore
encodes to the octets it was decoded from, and what follows these octets in the
datagram has no effect.
-/

namespace Radius

/-! ## Frames, once more -/

namespace Frame

theorem ofBytes_append {datagram : Bytes} {frame : Frame} (h : Frame.ofBytes datagram = .ok frame)
    (tail : Bytes) : Frame.ofBytes (datagram ++ tail) = .ok frame := by
  rw [ofBytes_eq_ok_iff] at h ⊢
  obtain ⟨hcanonical, hlength, hbytes, hstarts⟩ := h
  exact ⟨hcanonical, hlength, hbytes, hstarts.trans (List.prefix_append datagram tail)⟩

/-- The declared octets alone hold the frame. -/
theorem ofBytes_take {datagram : Bytes} {frame : Frame} (h : Frame.ofBytes datagram = .ok frame) :
    Frame.ofBytes (datagram.take (declaredLength datagram)) = .ok frame := by
  rw [← (taken_of_ofBytes h).bytes_eq]
  rw [ofBytes_eq_ok_iff] at h ⊢
  obtain ⟨hcanonical, hlength, hbytes, -⟩ := h
  exact ⟨hcanonical, hlength, hbytes, List.prefix_rfl⟩

/-- The packet of a frame encodes to the octets it was taken from. -/
theorem encode_packet {datagram : Bytes} {frame : Frame} (h : Frame.ofBytes datagram = .ok frame) :
    frame.packet.encode = .ok (datagram.take (declaredLength datagram)) := by
  have htaken := taken_of_ofBytes h
  obtain ⟨hcanonical, hlength, hbytes, -⟩ := ofBytes_eq_ok_iff.mp h
  rw [← htaken.bytes_eq, Packet.encode_eq_ok_iff]
  exact ⟨frame.authenticator, rfl, hcanonical.fits hlength, hbytes⟩

end Frame

/-! ## Messages and their packets -/

theorem AccessRequest.packet_ofReceived {hash : Hash} {secret : Bytes} {packet : Packet}
    {request : AccessRequest} (h : AccessRequest.ofReceived hash secret packet = .ok request) :
    request.packet = packet := by
  unfold ofReceived at h
  split at h
  · cases h
  split at h
  · obtain ⟨password, -, rfl⟩ := Except.map_eq_ok_iff.mp h
    rfl
  · obtain ⟨answer, -, rfl⟩ := Except.map_eq_ok_iff.mp h
    rfl
  · cases h
    rfl

namespace Message

@[simp] theorem packet_ofPacket (packet : Packet) : (ofPacket packet).packet = packet := by
  unfold ofPacket
  split <;> rfl

theorem packet_ofReceived {hash : Hash} {secret : Bytes} {packet : Packet} {message : Message}
    (h : ofReceived hash secret packet = .ok message) : message.packet = packet := by
  have hpacket := packet_ofPacket packet
  unfold ofReceived at h
  split at h
  · rename_i request hrequest
    rw [hrequest] at hpacket
    obtain ⟨received, hreceived, rfl⟩ := Except.map_eq_ok_iff.mp h
    exact (AccessRequest.packet_ofReceived hreceived).trans hpacket
  · cases h
    exact hpacket

/-! ## The two decoders -/

theorem ofRequestDatagram_eq_ok_iff {hash : Hash} {datagram secret : Bytes} {message : Message} :
    ofRequestDatagram hash datagram secret = .ok message ↔
      ∃ frame, Frame.ofBytes datagram = .ok frame ∧
        (frame.code = Code.accountingRequest.toUInt8 → frame.isSignedAccounting hash secret) ∧
        ofReceived hash secret frame.packet = .ok message := by
  constructor
  · intro h
    unfold ofRequestDatagram at h
    split at h
    · cases h
    rename_i frame hframe
    split at h
    · cases h
    rename_i haccepted
    refine ⟨frame, hframe, fun hcode => ?_, h⟩
    exact Classical.byContradiction fun hunsigned => haccepted ⟨hcode, hunsigned⟩
  · rintro ⟨frame, hframe, hsigned, hreceived⟩
    have haccepted : ¬ (frame.code = Code.accountingRequest.toUInt8 ∧
        ¬ frame.isSignedAccounting hash secret) := fun h => h.2 (hsigned h.1)
    rw [ofRequestDatagram, hframe]
    simp only [if_neg haccepted, hreceived]

theorem ofResponseDatagram_eq_ok_iff {hash : Hash} {datagram secret : Bytes} {request : Packet}
    {message : Message} :
    ofResponseDatagram hash datagram secret request = .ok message ↔
      ∃ frame authenticator, Frame.ofBytes datagram = .ok frame ∧
        frame.identifier = request.identifier ∧ request.authenticator = some authenticator ∧
        frame.isSignedResponse hash authenticator secret ∧ message = ofPacket frame.packet := by
  constructor
  · intro h
    unfold ofResponseDatagram at h
    split at h
    · cases h
    rename_i frame hframe
    split at h
    · cases h
    rename_i hidentifier
    split at h
    · cases h
    rename_i authenticator hauthenticator
    split at h
    · rename_i hsigned
      cases h
      exact ⟨frame, authenticator, hframe, Classical.not_not.mp hidentifier, hauthenticator,
        hsigned, rfl⟩
    · cases h
  · rintro ⟨frame, authenticator, hframe, hidentifier, hauthenticator, hsigned, rfl⟩
    simp [ofResponseDatagram, hframe, hidentifier, hauthenticator, hsigned]

/-! ## Accepted datagrams -/

/-- A message that encodes to the octets which a datagram declares, a number that a packet can
have and that the datagram does have. -/
structure DeclaredBy (message : Message) (datagram : Bytes) : Prop where
  min_le : 20 ≤ Frame.declaredLength datagram
  le_max : Frame.declaredLength datagram ≤ 4096
  le_length : Frame.declaredLength datagram ≤ datagram.length
  toDatagram_eq : message.toDatagram = .ok (datagram.take (Frame.declaredLength datagram))

theorem declaredBy_of_packet {datagram : Bytes} {frame : Frame} {message : Message}
    (hframe : Frame.ofBytes datagram = .ok frame) (hpacket : message.packet = frame.packet) :
    message.DeclaredBy datagram := by
  have htaken := Frame.taken_of_ofBytes hframe
  refine ⟨htaken.min_le, htaken.le_max, htaken.le_length, ?_⟩
  rw [toDatagram, hpacket, Frame.encode_packet hframe]

/-- An accepted datagram is what its message encodes to, up to the declared length, and the
octets behind that may be others, more or none. -/
theorem accepted_is_declared (hash : Hash) (datagram secret : Bytes) (message : Message) :
    (ofRequestDatagram hash datagram secret = .ok message →
      message.DeclaredBy datagram ∧
        ∀ tail, ofRequestDatagram hash (datagram ++ tail) secret = .ok message ∧
          ofRequestDatagram hash (datagram.take (Frame.declaredLength datagram) ++ tail) secret =
            .ok message) ∧
    ∀ request, ofResponseDatagram hash datagram secret request = .ok message →
      message.DeclaredBy datagram ∧
        ∀ tail, ofResponseDatagram hash (datagram ++ tail) secret request = .ok message ∧
          ofResponseDatagram hash (datagram.take (Frame.declaredLength datagram) ++ tail) secret
            request = .ok message := by
  constructor
  · intro h
    obtain ⟨frame, hframe, hsigned, hreceived⟩ := ofRequestDatagram_eq_ok_iff.mp h
    refine ⟨declaredBy_of_packet hframe (packet_ofReceived hreceived), fun tail => ⟨?_, ?_⟩⟩
    · exact ofRequestDatagram_eq_ok_iff.mpr
        ⟨frame, Frame.ofBytes_append hframe tail, hsigned, hreceived⟩
    · exact ofRequestDatagram_eq_ok_iff.mpr
        ⟨frame, Frame.ofBytes_append (Frame.ofBytes_take hframe) tail, hsigned, hreceived⟩
  · intro request h
    obtain ⟨frame, authenticator, hframe, hchecked⟩ := ofResponseDatagram_eq_ok_iff.mp h
    obtain ⟨hidentifier, hauthenticator, hsigned, rfl⟩ := hchecked
    refine ⟨declaredBy_of_packet hframe (packet_ofPacket _), fun tail => ⟨?_, ?_⟩⟩
    · exact ofResponseDatagram_eq_ok_iff.mpr ⟨frame, authenticator,
        Frame.ofBytes_append hframe tail, hidentifier, hauthenticator, hsigned, rfl⟩
    · exact ofResponseDatagram_eq_ok_iff.mpr ⟨frame, authenticator,
        Frame.ofBytes_append (Frame.ofBytes_take hframe) tail, hidentifier, hauthenticator,
        hsigned, rfl⟩

/-! ## A sample exchange

The user nemo asks with a hidden password, and is accepted. Both datagrams have an octet more
than they declare. -/

namespace Sample

def secret : Bytes := [0x78, 0x79, 0x7a, 0x7a, 0x79, 0x35, 0x34, 0x36, 0x31]

def authenticator : Block :=
  ⟨[0x0f, 0x40, 0x3f, 0x94, 0x73, 0x97, 0x80, 0x57, 0xbd, 0x83, 0xd5, 0xcb, 0x98, 0xf4, 0x22, 0x7a],
    rfl⟩

/-- The password "arctangent". -/
def password : Bytes := [0x61, 0x72, 0x63, 0x74, 0x61, 0x6e, 0x67, 0x65, 0x6e, 0x74]

def request : AccessRequest where
  packet :=
    { code := .accessRequest
      identifier := 0
      authenticator := some authenticator
      attributes :=
        [.standard ⟨none, 1, [0x6e, 0x65, 0x6d, 0x6f]⟩,
          .standard ⟨none, 2, [0x0d, 0xbe, 0x70, 0x8d, 0x93, 0xd4, 0x13, 0xce, 0x31, 0x96, 0xe4, 0x3f,
            0x78, 0x2a, 0x0a, 0xee]⟩,
          .container ⟨9, [⟨some 9, 26, []⟩]⟩] }
  protocol := .pap
  password := some password
  chap := none

def requestDatagram : Bytes :=
  [0x01, 0x00, 0x00, 0x34] ++ authenticator.bytes ++
    [0x01, 0x06, 0x6e, 0x65, 0x6d, 0x6f,
      0x02, 0x12, 0x0d, 0xbe, 0x70, 0x8d, 0x93, 0xd4, 0x13, 0xce, 0x31, 0x96, 0xe4, 0x3f, 0x78, 0x2a,
      0x0a, 0xee,
      0x1a, 0x08, 0x00, 0x00, 0x00, 0x09, 0x1a, 0x02,
      0xff]

def response : Packet where
  code := .accessAccept
  identifier := 0
  authenticator := some ⟨[0x86, 0xfe, 0x22, 0x0e, 0x76, 0x24, 0xba, 0x2a, 0x10, 0x05, 0xf6, 0xbf, 0x9b,
    0x55, 0xe0, 0xb2], rfl⟩
  attributes :=
    [.standard ⟨none, 6, [0, 0, 0, 1]⟩, .standard ⟨none, 15, [0, 0, 0, 0]⟩,
      .standard ⟨none, 14, [0xc0, 0xa8, 0x01, 0x03]⟩]

def responseDatagram : Bytes :=
  [0x02, 0x00, 0x00, 0x26,
    0x86, 0xfe, 0x22, 0x0e, 0x76, 0x24, 0xba, 0x2a, 0x10, 0x05, 0xf6, 0xbf, 0x9b, 0x55, 0xe0, 0xb2,
    0x06, 0x06, 0x00, 0x00, 0x00, 0x01, 0x0f, 0x06, 0x00, 0x00, 0x00, 0x00,
    0x0e, 0x06, 0xc0, 0xa8, 0x01, 0x03,
    0xff]

end Sample

theorem sample_is_declared :
    (ofRequestDatagram Md5.digest Sample.requestDatagram Sample.secret =
        .ok (.access Sample.request) ∧
      (Message.access Sample.request).DeclaredBy Sample.requestDatagram) ∧
    (ofResponseDatagram Md5.digest Sample.responseDatagram Sample.secret Sample.request.packet =
        .ok (.generic Sample.response) ∧
      (Message.generic Sample.response).DeclaredBy Sample.responseDatagram) := by
  have hrequest : ofRequestDatagram Md5.digest Sample.requestDatagram Sample.secret =
      .ok (.access Sample.request) := by decide +kernel
  have hresponse : ofResponseDatagram Md5.digest Sample.responseDatagram Sample.secret
      Sample.request.packet = .ok (.generic Sample.response) := by decide +kernel
  have haccepted := accepted_is_declared Md5.digest
  exact ⟨⟨hrequest, ((haccepted _ _ _).1 hrequest).1⟩,
    ⟨hresponse, ((haccepted _ _ _).2 _ hresponse).1⟩⟩

end Message
end Radius
