-- SUMMARY: What one side signs the other accepts: responses under every request they answer, requests under the shared secret.
import Radius.Proofs.Packet.Decoding
import Radius.Proofs.Secret.Authenticator

/-!
# Signing and checking

The signer hashes the header and the attributes of the packet it is about to encode; the
checker hashes what it finds at these places of the datagram. Both are the header and the
attribute octets of one packet, so every canonical packet that is not too long survives
the way from its encoding to its decoding, whatever its code.
-/

namespace Radius

/-- A named code is that of one octet. -/
theorem Code.ofUInt8_eq_iff {value : UInt8} {code : Code} (h : code.isNamed) :
    ofUInt8 value = code ↔ value = code.toUInt8 := by
  constructor
  · rintro rfl
    exact (toUInt8_ofUInt8 value).symm
  · rintro rfl
    cases code with
    | other value => cases h
    | _ => rfl

namespace Frame

section

variable {datagram : Bytes} {frame : Frame} (h : Frame.ofBytes datagram = .ok frame)
include h

theorem header_of_ofBytes : frame.header = frame.packet.header := by
  rw [header, (octets_of_ofBytes h).2.2, Packet.take_octets]

theorem attributeBytes_of_ofBytes : frame.attributeBytes = frame.packet.attributeOctets := by
  rw [attributeBytes, (octets_of_ofBytes h).2.2, Packet.drop_octets]

theorem isSignedResponse_iff {hash : Hash} {request : Block} {secret : Bytes} :
    frame.isSignedResponse hash request secret ↔
      frame.authenticator = Authenticator.response hash frame.packet.header request
        frame.packet.attributeOctets secret := by
  rw [isSignedResponse, header_of_ofBytes h, attributeBytes_of_ofBytes h,
    Authenticator.agrees_iff, Octets.ext_iff]

theorem isSignedAccounting_iff {hash : Hash} {secret : Bytes} :
    frame.isSignedAccounting hash secret ↔
      frame.authenticator = Authenticator.accounting hash frame.packet.header
        frame.packet.attributeOctets secret := by
  rw [isSignedAccounting, header_of_ofBytes h, attributeBytes_of_ofBytes h,
    Authenticator.agrees_iff, Octets.ext_iff]

end

/-- The frame that a packet is sent in, for a code that is written as this octet. -/
def around (code : UInt8) (packet : Packet) (authenticator : Block) : Frame where
  code := code
  identifier := packet.identifier
  authenticator := authenticator
  attributes := packet.attributes
  bytes := packet.octets authenticator

section

variable {code : UInt8} {packet : Packet} (hcode : packet.code = Code.ofUInt8 code)
include hcode

theorem packet_around (authenticator : Block) :
    (around code packet authenticator).packet = packet.withAuthenticator authenticator := by
  rw [Frame.packet, around, ← hcode]
  rfl

/-- The octets of a canonical packet that is not too long are taken apart into its frame. -/
theorem ofBytes_packet_octets (hcanonical : packet.Canonical) (hfits : packet.Fits)
    (authenticator : Block) :
    Frame.ofBytes (packet.octets authenticator) = .ok (around code packet authenticator) := by
  rw [ofBytes_eq_ok_iff, packet_around hcode]
  exact ⟨hcanonical, hfits.1, rfl, List.prefix_rfl⟩

end

end Frame

/-! ## Messages by code -/

namespace Message

section

variable {packet : Packet}

theorem ofPacket_of_access (h : packet.code = .accessRequest) :
    ofPacket packet = .access (AccessRequest.ofPacket packet) := by
  unfold ofPacket
  rw [h]

theorem ofPacket_of_accounting (h : packet.code = .accountingRequest) :
    ofPacket packet = .accounting packet := by
  unfold ofPacket
  rw [h]

theorem ofPacket_of_ne (haccess : packet.code ≠ .accessRequest)
    (haccounting : packet.code ≠ .accountingRequest) : ofPacket packet = .generic packet := by
  unfold ofPacket
  split
  · rename_i hcode
    exact absurd hcode haccess
  · rename_i hcode
    exact absurd hcode haccounting
  · rfl

/-- A request whose code is not that of an Access-Request has no credentials to recover. -/
theorem ofReceived_of_ne {hash : Hash} {secret : Bytes} (h : packet.code ≠ .accessRequest) :
    ofReceived hash secret packet = .ok (ofPacket packet) := by
  unfold ofReceived
  by_cases haccounting : packet.code = .accountingRequest
  · rw [ofPacket_of_accounting haccounting]
  · rw [ofPacket_of_ne h haccounting]

/-- What the message in a frame is, by the code of the frame. -/
theorem ofReceived_cases {hash : Hash} {secret : Bytes} {frame : Frame} {message : Message}
    (h : ofReceived hash secret frame.packet = .ok message) :
    (frame.code = 1 ∧ ∃ request, AccessRequest.ofReceived hash secret frame.packet = .ok request ∧
        message = .access request) ∨
      (frame.code = 4 ∧ message = .accounting frame.packet) ∨
      (frame.code ≠ 1 ∧ frame.code ≠ 4 ∧ message = .generic frame.packet) := by
  have haccess : frame.packet.code = .accessRequest ↔ frame.code = 1 := Code.ofUInt8_eq_iff rfl
  have haccounting : frame.packet.code = .accountingRequest ↔ frame.code = 4 :=
    Code.ofUInt8_eq_iff rfl
  by_cases hone : frame.code = 1
  · rw [ofReceived, ofPacket_of_access (haccess.mpr hone)] at h
    obtain ⟨request, hrequest, rfl⟩ := Except.map_eq_ok_iff.mp h
    exact .inl ⟨hone, request, hrequest, rfl⟩
  have hne : frame.packet.code ≠ .accessRequest := fun hcode => hone (haccess.mp hcode)
  rw [ofReceived_of_ne hne] at h
  cases h
  by_cases hfour : frame.code = 4
  · exact .inr (.inl ⟨hfour, ofPacket_of_accounting (haccounting.mpr hfour)⟩)
  · have hother : frame.packet.code ≠ .accountingRequest := fun hcode => hfour (haccounting.mp hcode)
    exact .inr (.inr ⟨hone, hfour, ofPacket_of_ne hne hother⟩)

/-! ## Encoding by code -/

theorem encodeResponse_eq_ok (h : packet.Fits) (hash : Hash) (secret : Bytes) (request : Block)
    {message : Message} (hmessage : message.packet = packet) :
    message.encodeResponse hash secret request =
      .ok (.generic (packet.withAuthenticator
        (Authenticator.response hash packet.header request packet.attributeOctets secret))) := by
  rw [encodeResponse, hmessage, Packet.signResponse,
    Packet.sign_eq_ok_iff.mpr ⟨h, rfl⟩]
  rfl

theorem encodeRequest_of_accounting (h : packet.Fits) (hcode : packet.code = .accountingRequest)
    (hash : Hash) (draws : Draws) (secret : Bytes) :
    (ofPacket packet).encodeRequest hash draws secret =
      .ok (.accounting (packet.withAuthenticator
        (Authenticator.accounting hash packet.header packet.attributeOctets secret))) := by
  rw [ofPacket_of_accounting hcode, encodeRequest, Packet.signAccounting,
    Packet.sign_eq_ok_iff.mpr ⟨h, rfl⟩]
  rfl

theorem encodeRequest_of_ne (h : packet.Fits) (haccess : packet.code ≠ .accessRequest)
    (haccounting : packet.code ≠ .accountingRequest) (hash : Hash) (draws : Draws)
    (secret : Bytes) :
    (ofPacket packet).encodeRequest hash draws secret =
      .ok (.generic (packet.withAuthenticator
        (packet.authenticator.getD draws.authenticator))) := by
  rw [ofPacket_of_ne haccess haccounting, encodeRequest,
    Packet.authenticate_eq_ok_iff.mpr ⟨h, rfl⟩]
  rfl

end

/-! ## Decoding what was encoded -/

section

variable {packet : Packet} {code : UInt8} (hcode : packet.code = Code.ofUInt8 code)
  (hcanonical : packet.Canonical) (hfits : packet.Fits)
include hcode hcanonical hfits

/-- The octets of a packet are decoded as a request, those of an Accounting-Request if its
authenticator is the right one. -/
theorem ofRequestDatagram_octets {hash : Hash} {secret : Bytes} {authenticator : Block}
    (hsigned : code = 4 → authenticator =
      Authenticator.accounting hash packet.header packet.attributeOctets secret) :
    ofRequestDatagram hash (packet.octets authenticator) secret =
      ofReceived hash secret (packet.withAuthenticator authenticator) := by
  have hframe := Frame.ofBytes_packet_octets hcode hcanonical hfits authenticator
  have haccepted : ¬ (code = Code.accountingRequest.toUInt8 ∧
      ¬ (Frame.around code packet authenticator).isSignedAccounting hash secret) := by
    rintro ⟨haccounting, hunsigned⟩
    rw [Frame.isSignedAccounting_iff hframe, Frame.packet_around hcode] at hunsigned
    exact hunsigned (hsigned haccounting)
  rw [ofRequestDatagram, hframe, ← Frame.packet_around hcode]
  exact if_neg haccepted

/-- The octets of a packet are decoded as a response if its authenticator is the right one. -/
theorem ofResponseDatagram_octets {hash : Hash} {secret : Bytes}
    {requestAuthenticator : Block} {request : Packet}
    (hidentifier : request.identifier = packet.identifier)
    (hrequest : request.authenticator = some requestAuthenticator) {authenticator : Block}
    (hsigned : authenticator = Authenticator.response hash packet.header requestAuthenticator
      packet.attributeOctets secret) :
    ofResponseDatagram hash (packet.octets authenticator) secret request =
      .ok (ofPacket (packet.withAuthenticator authenticator)) := by
  have hframe := Frame.ofBytes_packet_octets hcode hcanonical hfits authenticator
  rw [ofResponseDatagram_eq_ok_iff]
  refine ⟨_, requestAuthenticator, hframe, hidentifier.symm, hrequest, ?_, ?_⟩
  · rw [Frame.isSignedResponse_iff hframe, Frame.packet_around hcode]
    exact hsigned
  · rw [Frame.packet_around hcode]

end

/-! ## Round trips -/

/-- What travels in a message: code, identifier, authenticator and attributes. -/
structure Carries (message : Message) (code identifier : UInt8) (authenticator : Block)
    (attributes : List PacketAttribute) : Prop where
  code_eq : message.packet.code = Code.ofUInt8 code
  identifier_eq : message.packet.identifier = identifier
  authenticator_eq : message.packet.authenticator = some authenticator
  attributes_eq : message.packet.attributes = attributes

section

variable {packet : Packet} {code : UInt8} (hcode : packet.code = Code.ofUInt8 code)
include hcode

/-- A message of the same packet with an authenticator carries what was in the packet. -/
theorem carries_ofPacket (digest : Block) :
    (ofPacket (packet.withAuthenticator digest)).Carries code packet.identifier digest
      packet.attributes := by
  refine ⟨?_, ?_, ?_, ?_⟩ <;> rw [packet_ofPacket]
  · exact hcode
  · rfl
  · rfl
  · rfl

variable (hcanonical : packet.Canonical) (hfits : packet.Fits) (hash : Hash) (secret : Bytes)
include hcanonical hfits

theorem response_is_accepted (requestAuthenticator : Block) :
    ∃ signed datagram digest,
      (ofPacket packet).encodeResponse hash secret requestAuthenticator = .ok signed ∧
      signed.toDatagram = .ok datagram ∧
      signed.packet.authenticator = some digest ∧
      digest = hash (datagram.take 4 ++ requestAuthenticator.bytes ++ datagram.drop 20 ++ secret) ∧
      ∀ request : Packet, request.identifier = packet.identifier →
        request.authenticator = some requestAuthenticator →
        ∃ received, ofResponseDatagram hash datagram secret request = .ok received ∧
          received.Carries code packet.identifier digest packet.attributes := by
  refine ⟨_, packet.octets _, _, encodeResponse_eq_ok hfits hash secret requestAuthenticator
    (packet_ofPacket packet), Packet.encode_withAuthenticator hfits _, rfl, ?_, ?_⟩
  · exact congrArg hash (packet.signedMessage_octets requestAuthenticator _ secret)
  · intro request hidentifier hrequest
    exact ⟨_, ofResponseDatagram_octets hcode hcanonical hfits hidentifier hrequest rfl,
      carries_ofPacket hcode _⟩

theorem request_is_accepted (hne : code ≠ 1) (draws : Draws) :
    ∃ encoded datagram digest received,
      (ofPacket packet).encodeRequest hash draws secret = .ok encoded ∧
      encoded.toDatagram = .ok datagram ∧
      encoded.packet.authenticator = some digest ∧
      (code = 4 →
        digest = hash (datagram.take 4 ++ List.replicate 16 0 ++ datagram.drop 20 ++ secret)) ∧
      (code ≠ 4 → digest = packet.authenticator.getD draws.authenticator) ∧
      ofRequestDatagram hash datagram secret = .ok received ∧
      received.Carries code packet.identifier digest packet.attributes := by
  have haccess : packet.code ≠ .accessRequest := by
    rw [hcode, Ne, Code.ofUInt8_eq_iff rfl]
    exact hne
  by_cases hfour : code = 4
  · have haccounting : packet.code = .accountingRequest := by
      rw [hcode, Code.ofUInt8_eq_iff rfl]
      exact hfour
    refine ⟨_, packet.octets _, _, _,
      encodeRequest_of_accounting hfits haccounting hash draws secret,
      Packet.encode_withAuthenticator hfits _, rfl, fun _ => ?_, fun h => absurd hfour h, ?_,
      carries_ofPacket hcode _⟩
    · exact congrArg hash (packet.signedMessage_octets (Octets.zero 16) _ secret)
    · rw [ofRequestDatagram_octets hcode hcanonical hfits (fun _ => rfl)]
      exact ofReceived_of_ne haccess
  · have haccounting : packet.code ≠ .accountingRequest := by
      rw [hcode, Ne, Code.ofUInt8_eq_iff rfl]
      exact hfour
    refine ⟨_, packet.octets _, _, _,
      encodeRequest_of_ne hfits haccess haccounting hash draws secret,
      Packet.encode_withAuthenticator hfits _, rfl, fun h => absurd h hfour, fun _ => rfl, ?_,
      carries_ofPacket hcode _⟩
    rw [ofRequestDatagram_octets hcode hcanonical hfits (fun h => absurd h hfour)]
    exact ofReceived_of_ne haccess

end

/-- A response that is made for a request authenticator is accepted by whoever sent a request
with it, and a request other than an Access-Request by whoever shares the secret. Both carry on
what they were made from, and the authenticator is the digest of the datagram with the request
authenticator, or zeros, in its place. -/
theorem signed_is_accepted (hash : Hash) (secret : Bytes) (code identifier : UInt8)
    (authenticator : Option Block) (attributes : List PacketAttribute)
    (hcanonical : ∀ attr ∈ attributes, attr.Canonical)
    (hlength : (create code identifier authenticator attributes).packet.encodedLength ≤ 4096) :
    (∀ requestAuthenticator : Block, ∃ signed datagram digest,
      (create code identifier authenticator attributes).encodeResponse hash secret
        requestAuthenticator = .ok signed ∧
      signed.toDatagram = .ok datagram ∧
      signed.packet.authenticator = some digest ∧
      digest = hash (datagram.take 4 ++ requestAuthenticator.bytes ++ datagram.drop 20 ++ secret) ∧
      ∀ request : Packet, request.identifier = identifier →
        request.authenticator = some requestAuthenticator →
        ∃ received, ofResponseDatagram hash datagram secret request = .ok received ∧
          received.Carries code identifier digest attributes) ∧
    (code ≠ 1 → ∀ draws : Draws, ∃ encoded datagram digest received,
      (create code identifier authenticator attributes).encodeRequest hash draws secret =
        .ok encoded ∧
      encoded.toDatagram = .ok datagram ∧
      encoded.packet.authenticator = some digest ∧
      (code = 4 →
        digest = hash (datagram.take 4 ++ List.replicate 16 0 ++ datagram.drop 20 ++ secret)) ∧
      (code ≠ 4 → digest = authenticator.getD draws.authenticator) ∧
      ofRequestDatagram hash datagram secret = .ok received ∧
      received.Carries code identifier digest attributes) := by
  rw [create] at hlength ⊢
  rw [packet_ofPacket] at hlength
  have hcanonical : Packet.Canonical ⟨Code.ofUInt8 code, identifier, authenticator, attributes⟩ :=
    hcanonical
  have hfits := hcanonical.fits hlength
  constructor
  · exact response_is_accepted rfl hcanonical hfits hash secret
  · exact request_is_accepted rfl hcanonical hfits hash secret

theorem sample_is_accepted :
    ((∀ attr ∈ Sample.request.packet.attributes, attr.Canonical) ∧
      (create 4 7 none Sample.request.packet.attributes).packet.encodedLength ≤ 4096) ∧
    (∃ signed datagram received,
      (create 4 7 none Sample.request.packet.attributes).encodeResponse Md5.digest Sample.secret
        Sample.authenticator = .ok signed ∧
      signed.toDatagram = .ok datagram ∧
      ofResponseDatagram Md5.digest datagram Sample.secret
        ⟨.accessRequest, 7, some Sample.authenticator, []⟩ = .ok received ∧
      received.packet.attributes = Sample.request.packet.attributes) ∧
    ∃ encoded datagram received,
      (create 4 7 none Sample.request.packet.attributes).encodeRequest Md5.digest
        ⟨Sample.authenticator, Sample.authenticator, 0⟩ Sample.secret = .ok encoded ∧
      encoded.toDatagram = .ok datagram ∧
      ofRequestDatagram Md5.digest datagram Sample.secret = .ok received ∧
      received.packet.attributes = Sample.request.packet.attributes := by
  have hcanonical : ∀ attr ∈ Sample.request.packet.attributes, attr.Canonical := by decide
  have hlength : (create 4 7 none Sample.request.packet.attributes).packet.encodedLength ≤ 4096 := by
    decide
  have haccepted := signed_is_accepted Md5.digest Sample.secret 4 7 none
    Sample.request.packet.attributes hcanonical hlength
  refine ⟨⟨hcanonical, hlength⟩, ?_, ?_⟩
  · obtain ⟨signed, datagram, digest, hsigned, hdatagram, -, -, hreceived⟩ :=
      haccepted.1 Sample.authenticator
    obtain ⟨received, hdecoded, hcarries⟩ := hreceived
      ⟨.accessRequest, 7, some Sample.authenticator, []⟩ rfl rfl
    exact ⟨signed, datagram, received, hsigned, hdatagram, hdecoded, hcarries.attributes_eq⟩
  · obtain ⟨encoded, datagram, digest, received, hencoded, hdatagram, -, -, -, hdecoded, hcarries⟩ :=
      haccepted.2 (by decide) ⟨Sample.authenticator, Sample.authenticator, 0⟩
    exact ⟨encoded, datagram, received, hencoded, hdatagram, hdecoded, hcarries.attributes_eq⟩

end Message
end Radius
