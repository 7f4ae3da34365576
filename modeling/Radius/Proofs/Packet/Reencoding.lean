-- SUMMARY: A request that was received can be sent on under the same secret: as it came, or with its password hidden once more.
import Mathlib.Data.List.Flatten
import Radius.Proofs.Packet.Access

/-!
# Sending a request on

A request off the wire has an authenticator, and only a hidden password is known to whoever
received it. Encoded once more, a request whose password is unknown is what it was; one with
a hidden password gets it hidden again under the same authenticator, in place of all the
credentials it came with. What was revealed is no longer than what it was hidden in, so
the request does not grow, and every way of encoding it succeeds. After that it no longer
changes.
-/

namespace Radius

/-! ## Removing credentials -/

namespace Packet

/-- A packet with an authenticator is given none. -/
theorem withAuthenticator_of_some {packet : Packet} {authenticator : Block}
    (h : packet.authenticator = some authenticator) :
    packet.withAuthenticator authenticator = packet := by
  rw [withAuthenticator, ← h]

/-- An attribute that is filtered out makes room for its octets. -/
theorem length_filter_add_le {keeps : PacketAttribute → Bool} {attributes : List PacketAttribute}
    {attr : PacketAttribute} (hmem : attr ∈ attributes) (hout : keeps attr = false) :
    ((attributes.filter keeps).flatMap PacketAttribute.octets).length + attr.encodedLength ≤
      (attributes.flatMap PacketAttribute.octets).length := by
  obtain ⟨front, back, rfl⟩ := List.append_of_mem hmem
  have hfront := ((front.filter_sublist (p := keeps)).flatMap PacketAttribute.octets).length_le
  have hback := ((back.filter_sublist (p := keeps)).flatMap PacketAttribute.octets).length_le
  simp only [List.filter_append, List.filter_cons, hout, Bool.false_eq_true, if_false,
    List.flatMap_append, List.flatMap_cons, List.length_append, PacketAttribute.length_octets]
  omega

end Packet

namespace AccessRequest

/-- Whether an attribute carries no credentials. -/
def isPlain (attr : PacketAttribute) : Bool := attr.type ≠ 2 ∧ attr.type ≠ 3 ∧ attr.type ≠ 60

theorem attributes_withoutCredentials (packet : Packet) :
    (withoutCredentials packet).attributes = packet.attributes.filter isPlain := by
  have hplain : isPlain = fun attr : PacketAttribute =>
      decide (attr.type ≠ AttributeType.chapChallenge) &&
        (decide (attr.type ≠ AttributeType.chapPassword) &&
          decide (attr.type ≠ AttributeType.userPassword)) := by
    funext attr
    rw [isPlain, Bool.eq_iff_iff]
    simp only [decide_eq_true_eq, Bool.and_eq_true]
    exact ⟨fun ⟨hpap, hchap, hchallenge⟩ => ⟨hchallenge, hchap, hpap⟩,
      fun ⟨hchallenge, hchap, hpap⟩ => ⟨hpap, hchap, hchallenge⟩⟩
  rw [withoutCredentials, Packet.removeAttributes, Packet.removeAttributes,
    Packet.removeAttributes, List.filter_filter, List.filter_filter, hplain]

theorem attributes_withPassword (packet : Packet) (hidden : Bytes) :
    (withPassword packet hidden).attributes =
      packet.attributes.filter isPlain ++
        [.standard (.standard AttributeType.userPassword hidden)] := by
  rw [withPassword, Packet.attributes_addAttribute, attributes_withoutCredentials]

/-- A password in place of another one is as if the other one had not been. -/
theorem withPassword_withPassword (packet : Packet) (hidden again : Bytes) :
    withPassword (withPassword packet hidden) again = withPassword packet again := by
  have hdropped : isPlain (.standard (.standard AttributeType.userPassword hidden)) = false := rfl
  have hattributes : (withPassword (withPassword packet hidden) again).attributes =
      (withPassword packet again).attributes := by
    rw [attributes_withPassword, attributes_withPassword, attributes_withPassword,
      List.filter_append, List.filter_filter, List.filter_singleton, hdropped]
    simp
  exact congrArg (fun attributes => { packet with attributes }) hattributes

/-- The packet does not grow if it had a hidden password that was as long. -/
theorem encodedLength_withPassword_le {packet : Packet} {given : Attribute} {hidden : Bytes}
    (hgiven : packet.attribute? AttributeType.userPassword = some given)
    (hlength : hidden.length ≤ given.value.length) :
    (withPassword packet hidden).encodedLength ≤ packet.encodedLength := by
  obtain ⟨hmem, htype⟩ := Packet.mem_attributesOfType_iff.mp (List.mem_of_head? hgiven)
  have hout : isPlain (.standard given) = false := by
    simp [isPlain, PacketAttribute.type, htype, AttributeType.userPassword]
  have hroom := Packet.length_filter_add_le hmem hout
  rw [Packet.encodedLength_eq, Packet.encodedLength_eq, Packet.attributeOctets,
    Packet.attributeOctets, attributes_withPassword, List.flatMap_append, List.length_append,
    List.flatMap_singleton, PacketAttribute.length_octets]
  simp only [PacketAttribute.encodedLength, Attribute.encodedLength, Attribute.standard] at hroom ⊢
  omega

/-! ## Encoding a request once more -/

/-- The request of a received packet whose hidden password is this one. -/
def known (packet : Packet) (password : Bytes) : AccessRequest :=
  { ofPacket packet with password := some password }

section

variable {hash : Hash} {draws : Draws} {secret password : Bytes} {packet : Packet}
  {authenticator : Block}

/-- A request whose password is not known is sent as it is. -/
theorem encodeRequest_of_unknown {request : AccessRequest} (hpassword : request.password = none)
    (hauthenticator : request.packet.authenticator = some authenticator)
    (hfits : request.packet.Fits) :
    request.encodeRequest hash draws secret = .ok request := by
  rw [encodeRequest_eq_ok_iff]
  refine ⟨request, ?_, hfits, ?_⟩
  · simp only [placeCredentials, hpassword]
  · rw [hauthenticator, Option.getD_some, Packet.withAuthenticator_of_some hauthenticator]

/-- A request whose password is known is sent with the password hidden. -/
theorem encodeRequest_known {hidden : Bytes} (hauthenticator : packet.authenticator = some authenticator)
    (hhidden : Password.hide hash password secret authenticator = .ok hidden)
    (hfits : (withPassword packet hidden).Fits) :
    (known packet password).encodeRequest hash draws secret =
      .ok (known (withPassword packet hidden) password) := by
  have hkept : (withPassword packet hidden).authenticator = some authenticator := hauthenticator
  have hdrawn : (known packet password).packet.authenticator.getD draws.authenticator =
      authenticator := by
    rw [known, ofPacket, hauthenticator, Option.getD_some]
  rw [encodeRequest_eq_ok_iff, hdrawn]
  refine ⟨known (withPassword packet hidden) password, ?_, hfits, ?_⟩
  · simp only [placeCredentials, known, ofPacket, hhidden]
    rfl
  · simp only [known, ofPacket, Packet.withAuthenticator_of_some hkept]

/-- Of a received request only a hidden password is known, and the rest is the packet. -/
theorem ofReceived_cases {request : AccessRequest}
    (h : ofReceived hash secret packet = .ok request) :
    (∃ authenticator given password, packet.authenticator = some authenticator ∧
        packet.attribute? AttributeType.userPassword = some given ∧
        Password.reveal hash given.value secret authenticator = .ok password ∧
        request = known packet password) ∨
      packet.attribute? AttributeType.userPassword = none ∧ request.password = none := by
  unfold ofReceived at h
  split at h
  · cases h
  rename_i authenticator hauthenticator
  split at h
  · rename_i given hgiven
    obtain ⟨password, hrevealed, rfl⟩ := Except.map_eq_ok_iff.mp h
    exact .inl ⟨authenticator, given, password, hauthenticator, hgiven, hrevealed, rfl⟩
  · rename_i hnone _
    obtain ⟨answer, -, rfl⟩ := Except.map_eq_ok_iff.mp h
    exact .inr ⟨hnone, rfl⟩
  · rename_i hnone _
    cases h
    exact .inr ⟨hnone, rfl⟩

end

end AccessRequest

namespace Message

open AccessRequest (isPlain known withPassword)

/-! ## Messages in their final form -/

/-- A message goes out as this datagram, in which its receiver finds the very same message, and
encoding it as a request takes no draws and does not change it. -/
structure SentAs (hash : Hash) (secret : Bytes) (message : Message) (datagram : Bytes) : Prop where
  toDatagram_eq : message.toDatagram = .ok datagram
  ofRequestDatagram_eq : ofRequestDatagram hash datagram secret = .ok message
  usesDraws_eq : message.usesDraws = false
  encodeRequest_eq : ∀ draws, message.encodeRequest hash draws secret = .ok message

/-- An Access-Request with a User-Password among its standard attributes. -/
def HasHiddenPassword (message : Message) : Prop :=
  ∃ request attr, message = .access request ∧ .standard attr ∈ request.packet.attributes ∧
    attr.type = AttributeType.userPassword

theorem hasHiddenPassword_iff {request : AccessRequest} :
    (access request).HasHiddenPassword ↔
      (request.packet.attribute? AttributeType.userPassword).isSome := by
  rw [Packet.attribute?, List.isSome_head?]
  constructor
  · rintro ⟨_, attr, ⟨⟩, hattr⟩
    exact List.ne_nil_of_mem (Packet.mem_attributesOfType_iff.mpr hattr)
  · intro hne
    obtain ⟨attr, hattr⟩ := List.exists_mem_of_ne_nil _ hne
    exact ⟨request, attr, rfl, Packet.mem_attributesOfType_iff.mp hattr⟩

section

variable {hash : Hash} {draws : Draws} {datagram secret : Bytes} {frame : Frame}
  {message : Message}

/-- What a datagram gives has an authenticator, and its password is not to be sent under CHAP. -/
theorem usesDraws_of_received (h : ofReceived hash secret frame.packet = .ok message) :
    message.usesDraws = false := by
  rcases ofReceived_cases h with ⟨-, request, hrequest, rfl⟩ | ⟨-, rfl⟩ | ⟨-, -, rfl⟩
  · have hpacket := AccessRequest.packet_ofReceived hrequest
    rcases AccessRequest.ofReceived_cases hrequest with
      ⟨authenticator, given, password, -, -, -, rfl⟩ | ⟨-, hpassword⟩
    · rfl
    · rw [usesDraws, hpacket, hpassword, Option.isSome_none, Bool.and_false, Bool.or_false]
      rfl
  · rfl
  · rfl

/-- A message without a hidden password is sent as it came, and an Accounting-Request gets the
authenticator that it was accepted with. -/
theorem encodeRequest_of_received (hframe : Frame.ofBytes datagram = .ok frame)
    (hsigned : frame.code = Code.accountingRequest.toUInt8 → frame.isSignedAccounting hash secret)
    (hreceived : ofReceived hash secret frame.packet = .ok message)
    (hplain : ¬ message.HasHiddenPassword) :
    message.encodeRequest hash draws secret = .ok message := by
  obtain ⟨hcanonical, hlength, -⟩ := Frame.ofBytes_eq_ok_iff.mp hframe
  have hfits := hcanonical.fits hlength
  rcases ofReceived_cases hreceived with ⟨-, request, hrequest, rfl⟩ | ⟨hcode, rfl⟩ | ⟨hone, hfour, rfl⟩
  case inl =>
    have hpacket := AccessRequest.packet_ofReceived hrequest
    rcases AccessRequest.ofReceived_cases hrequest with
      ⟨authenticator, given, password, -, hgiven, -, rfl⟩ | ⟨-, hpassword⟩
    · exact absurd (hasHiddenPassword_iff.mpr (Option.isSome_of_eq_some hgiven)) hplain
    · rw [encodeRequest, AccessRequest.encodeRequest_of_unknown hpassword
        (congrArg Packet.authenticator hpacket) (hpacket ▸ hfits)]
      rfl
  case inr.inl =>
    have hauthenticator := (Frame.isSignedAccounting_iff hframe).mp (hsigned hcode)
    have hcode : frame.packet.code = .accountingRequest := congrArg Code.ofUInt8 hcode
    have hencoded := encodeRequest_of_accounting hfits hcode hash draws secret
    rwa [ofPacket_of_accounting hcode, ← hauthenticator,
      Packet.withAuthenticator_of_some rfl] at hencoded
  case inr.inr =>
    have haccess : frame.packet.code ≠ .accessRequest :=
      fun hcode => hone ((Code.ofUInt8_eq_iff rfl).mp hcode)
    have haccounting : frame.packet.code ≠ .accountingRequest :=
      fun hcode => hfour ((Code.ofUInt8_eq_iff rfl).mp hcode)
    have hencoded := encodeRequest_of_ne hfits haccess haccounting hash draws secret
    rwa [ofPacket_of_ne haccess haccounting, Packet.withAuthenticator_of_some rfl] at hencoded

/-- Hidden once more, a password that was revealed makes a message in its final form. -/
theorem sentAs_of_hide {packet : Packet} {authenticator : Block} {password hidden : Bytes}
    (hcode : packet.code = .accessRequest) (hauthenticator : packet.authenticator = some authenticator)
    (hcanonical : packet.Canonical)
    (hlength : (withPassword packet hidden).encodedLength ≤ Packet.maxLength)
    (hhidden : Password.hide hash password secret authenticator = .ok hidden)
    (hstripped : password.stripTrailingZeros = password) :
    (access (known (withPassword packet hidden) password)).SentAs hash secret
      ((withPassword packet hidden).octets authenticator) := by
  have hplaced := AccessRequest.canonical_withPassword hcanonical (Password.length_le_of_hide hhidden)
  have hfits := hplaced.fits hlength
  have hkept : (withPassword packet hidden).withAuthenticator authenticator =
      withPassword packet hidden := Packet.withAuthenticator_of_some hauthenticator
  refine ⟨?_, ?_, ?_, fun draws => ?_⟩
  · have hencoded := Packet.encode_withAuthenticator hfits authenticator
    rwa [hkept] at hencoded
  · have hplacedCode : (withPassword packet hidden).code = .accessRequest := hcode
    have hreceived := AccessRequest.ofRequestDatagram_of_access hplacedCode hplaced hfits
      authenticator (AccessRequest.ofReceived_withPassword packet hhidden)
    rwa [hkept, hstripped] at hreceived
  · have hsome : (withPassword packet hidden).authenticator = some authenticator :=
      hauthenticator
    simp [usesDraws, known, AccessRequest.ofPacket, hsome]
  · -- The authenticator is the same, so the password is hidden as it was.
    have hagain := AccessRequest.withPassword_withPassword packet hidden hidden
    have hencoded : (known (withPassword packet hidden) password).encodeRequest hash draws secret =
        .ok (known (withPassword (withPassword packet hidden) hidden) password) :=
      AccessRequest.encodeRequest_known hauthenticator hhidden (hagain.symm ▸ hfits)
    rw [encodeRequest, hencoded, hagain]
    rfl

/-- A received password is hidden once more under the authenticator it came with, in a packet that
is no longer. -/
theorem exists_hidden_again {request : AccessRequest} (hframe : Frame.ofBytes datagram = .ok frame)
    (hcode : frame.code = 1)
    (hreceived : AccessRequest.ofReceived hash secret frame.packet = .ok request)
    (hhidden : (access request).HasHiddenPassword) :
    ∃ password hidden, request.password = some password ∧
      (withPassword frame.packet hidden).encodedLength ≤ frame.packet.encodedLength ∧
      (∀ draws, (access request).encodeRequest hash draws secret =
        .ok (access (known (withPassword frame.packet hidden) password))) ∧
      (access (known (withPassword frame.packet hidden) password)).SentAs hash secret
        ((withPassword frame.packet hidden).octets frame.authenticator) := by
  obtain ⟨hcanonical, hmax, -⟩ := Frame.ofBytes_eq_ok_iff.mp hframe
  rcases AccessRequest.ofReceived_cases hreceived with
    ⟨authenticator, given, password, hauthenticator, hgiven, hrevealed, rfl⟩ | ⟨hnone, -⟩
  case inr =>
    rw [hasHiddenPassword_iff, AccessRequest.packet_ofReceived hreceived, hnone] at hhidden
    cases hhidden
  -- The packet of a frame has the authenticator of the frame.
  cases hauthenticator
  obtain ⟨hidden, hagain, hshorter⟩ := Password.exists_hide_of_reveal hrevealed
  have hlength := AccessRequest.encodedLength_withPassword_le hgiven hshorter
  have hplaced := AccessRequest.canonical_withPassword hcanonical (Password.length_le_of_hide hagain)
  refine ⟨password, hidden, rfl, hlength, fun draws => ?_, ?_⟩
  · rw [encodeRequest, AccessRequest.encodeRequest_known rfl hagain
      (hplaced.fits (hlength.trans hmax))]
    rfl
  · exact sentAs_of_hide (congrArg Code.ofUInt8 hcode) rfl hcanonical (hlength.trans hmax) hagain
      (Password.stripTrailingZeros_of_reveal hrevealed)

end

/-- Whatever is accepted as a request can be encoded under the same secret, without draws, and
keeps its identifier and its authenticator. It goes out as the octets that it came in, unless it is
an Access-Request with a hidden password: that one loses all its credentials and ends in the same
password, hidden once more, and is no longer than before. What went out no longer changes. -/
theorem received_is_sent_on (hash : Hash) (datagram secret : Bytes) (message : Message)
    (h : ofRequestDatagram hash datagram secret = .ok message) :
    ∃ frame encoded sent,
      Frame.ofBytes datagram = .ok frame ∧
      message.usesDraws = false ∧
      (∀ draws, message.encodeRequest hash draws secret = .ok encoded) ∧
      encoded.SentAs hash secret sent ∧
      (¬ message.HasHiddenPassword →
        encoded.Carries frame.code frame.identifier frame.authenticator frame.attributes ∧
        sent = datagram.take (Frame.declaredLength datagram)) ∧
      (message.HasHiddenPassword → ∃ hidden request received,
        encoded.Carries frame.code frame.identifier frame.authenticator
          (frame.attributes.filter isPlain ++
            [.standard (.standard AttributeType.userPassword hidden)]) ∧
        sent.length ≤ datagram.length ∧
        message = .access request ∧
        request.password.isSome ∧
        ofRequestDatagram hash sent secret = .ok (.access received) ∧
        received.password = request.password) := by
  obtain ⟨frame, hframe, hsigned, hreceived⟩ := ofRequestDatagram_eq_ok_iff.mp h
  have hdraws := usesDraws_of_received hreceived
  by_cases hhidden : message.HasHiddenPassword
  · have hcases := ofReceived_cases hreceived
    obtain ⟨request, attr, rfl, hattr⟩ := hhidden
    have hhidden : (access request).HasHiddenPassword := ⟨request, attr, rfl, hattr⟩
    obtain ⟨hcode, _, hrequest, ⟨⟩⟩ | ⟨-, ⟨⟩⟩ | ⟨-, -, ⟨⟩⟩ := hcases
    obtain ⟨password, hidden, hpassword, hlength, hencoded, hsent⟩ :=
      exists_hidden_again hframe hcode hrequest hhidden
    obtain ⟨-, hdeclared, -⟩ := Frame.octets_of_ofBytes hframe
    have hwhole := (Frame.taken_of_ofBytes hframe).le_length
    refine ⟨frame, _, _, hframe, hdraws, hencoded, hsent, fun hplain => absurd hhidden hplain,
      fun _ => ⟨hidden, request, _, ⟨rfl, rfl, rfl, ?_⟩, ?_, rfl, ?_, hsent.ofRequestDatagram_eq, ?_⟩⟩
    · exact AccessRequest.attributes_withPassword frame.packet hidden
    · rw [Packet.length_octets]
      exact hlength.trans (hdeclared.trans_le hwhole)
    · exact Option.isSome_of_eq_some hpassword
    · exact hpassword.symm
  · have hpacket := packet_ofReceived hreceived
    have hencoded : ∀ draws, message.encodeRequest hash draws secret = .ok message :=
      fun draws => encodeRequest_of_received hframe hsigned hreceived hhidden
    refine ⟨frame, message, datagram.take (Frame.declaredLength datagram), hframe, hdraws, hencoded,
      ⟨?_, ?_, hdraws, hencoded⟩, fun _ => ⟨?_, rfl⟩, fun hfound => absurd hfound hhidden⟩
    · exact (declaredBy_of_packet hframe hpacket).toDatagram_eq
    · exact ofRequestDatagram_eq_ok_iff.mpr ⟨frame, Frame.ofBytes_take hframe, hsigned, hreceived⟩
    · exact ⟨congrArg Packet.code hpacket, congrArg Packet.identifier hpacket,
        congrArg Packet.authenticator hpacket, congrArg Packet.attributes hpacket⟩

/-! ## A sample request

The request of nemo, with the password padded by a block too many and among credentials of every
kind. The first User-Password counts. -/

namespace Sample

/-- The password of nemo in two hidden blocks, the second of them only zeros. -/
def paddedPassword : Bytes :=
  [0x0d, 0xbe, 0x70, 0x8d, 0x93, 0xd4, 0x13, 0xce, 0x31, 0x96, 0xe4, 0x3f, 0x78, 0x2a, 0x0a, 0xee,
    0x78, 0x0a, 0xf8, 0x8a, 0xe7, 0xdf, 0x81, 0x12, 0xf6, 0x1a, 0x0a, 0x45, 0xb3, 0xea, 0x47, 0x27]

def padded : AccessRequest where
  packet :=
    { code := .accessRequest
      identifier := 0
      authenticator := some authenticator
      attributes :=
        [.standard ⟨none, 3, [0x6f]⟩, .standard ⟨none, 1, [0x6e, 0x65, 0x6d, 0x6f]⟩,
          .standard ⟨none, 2, paddedPassword⟩, .container ⟨9, [⟨some 9, 26, []⟩]⟩,
          .standard ⟨none, 60, [0x73]⟩, .standard ⟨none, 2, []⟩] }
  protocol := .pap
  password := some password
  chap := none

def paddedDatagram : Bytes :=
  [0x01, 0x00, 0x00, 0x4c] ++ authenticator.bytes ++
    [0x03, 0x03, 0x6f, 0x01, 0x06, 0x6e, 0x65, 0x6d, 0x6f, 0x02, 0x22] ++ paddedPassword ++
    [0x1a, 0x08, 0x00, 0x00, 0x00, 0x09, 0x1a, 0x02, 0x3c, 0x03, 0x73, 0x02, 0x02]

end Sample

theorem sample_is_sent_on :
    ofRequestDatagram Md5.digest Sample.paddedDatagram Sample.secret = .ok (.access Sample.padded) ∧
      (Message.access Sample.padded).HasHiddenPassword ∧
      ∃ encoded sent hidden received,
        (∀ draws, (Message.access Sample.padded).encodeRequest Md5.digest draws Sample.secret =
          .ok encoded) ∧
        encoded.SentAs Md5.digest Sample.secret sent ∧
        encoded.Carries 1 0 Sample.authenticator
          [.standard ⟨none, 1, [0x6e, 0x65, 0x6d, 0x6f]⟩, .container ⟨9, [⟨some 9, 26, []⟩]⟩,
            .standard ⟨none, 2, hidden⟩] ∧
        sent.length ≤ 76 ∧
        ofRequestDatagram Md5.digest sent Sample.secret = .ok (.access received) ∧
        received.password = some Sample.password := by
  have hreceived : ofRequestDatagram Md5.digest Sample.paddedDatagram Sample.secret =
      .ok (.access Sample.padded) := by decide +kernel
  have hhidden : (Message.access Sample.padded).HasHiddenPassword :=
    ⟨_, ⟨none, 2, Sample.paddedPassword⟩, rfl, by decide, rfl⟩
  obtain ⟨frame, encoded, sent, hframe, -, hencoded, hsent, -, hagain⟩ :=
    received_is_sent_on Md5.digest Sample.paddedDatagram Sample.secret _ hreceived
  obtain ⟨hidden, request, received, hcarries, hlength, ⟨⟩, -, hrecovered, hpassword⟩ :=
    hagain hhidden
  have htaken : Frame.ofBytes Sample.paddedDatagram = .ok
      ⟨1, 0, Sample.authenticator, Sample.padded.packet.attributes, Sample.paddedDatagram⟩ := by
    decide +kernel
  cases hframe.symm.trans htaken
  exact ⟨hreceived, hhidden, encoded, sent, hidden, received, hencoded, hsent, hcarries, hlength,
    hrecovered, hpassword⟩

end Message
end Radius
