-- SUMMARY: Answers to challenges from the sender of an Access-Request to its receiver, and the challenge of requests that carry none.
import Radius.Proofs.Packet.Access

/-!
# Challenges in Access-Requests

Under CHAP a request carries the digest of an identifier, the password and a challenge,
in one attribute with the identifier, and the challenge in another. Encoding removes
whatever credentials were there before, so the receiver pairs exactly these two, and
both sides hold the same answer. No shared secret takes part in it. A request without
a challenge attribute answers its own authenticator.
-/

namespace Radius

/-! ## Adding and finding -/

namespace Packet

theorem attributesOfType_addAttribute (packet : Packet) (added type : UInt8) (value : Bytes) :
    (packet.addAttribute (.standard added value)).attributesOfType type =
      packet.attributesOfType type ++ if added = type then [.standard added value] else [] := by
  unfold attributesOfType
  rw [attributes_addAttribute, List.filterMap_append]
  by_cases htype : added = type
  · simp [Attribute.standard, htype]
  · simp [Attribute.standard, htype]

end Packet

/-! ## Answers -/

namespace ChapAnswer

/-- An answer is read back from the value that it is sent as, for the challenge it was given to. -/
theorem ofValue_toValue (answer : ChapAnswer) :
    ofValue answer.challenge answer.toValue = .ok answer := by
  simp only [toValue, ofValue, Octets.ofBytes?_bytes]

/-- An answer is read from the value that it is sent as, and from no other. -/
theorem ofValue_eq_ok_iff {challenge value : Bytes} {answer : ChapAnswer} :
    ofValue challenge value = .ok answer ↔ value = answer.toValue ∧ answer.challenge = challenge := by
  constructor
  · intro h
    cases value with
    | nil => cases h
    | cons identifier response =>
        simp only [ofValue] at h
        split at h
        · rename_i block hblock
          cases h
          rw [toValue, Octets.ofBytes?_eq_some_iff.mp hblock]
          exact ⟨rfl, rfl⟩
        · cases h
  · rintro ⟨rfl, rfl⟩
    exact answer.ofValue_toValue

/-- Seventeen octets are an answer. -/
theorem ofValue_of_length {value : Bytes} (h : value.length = 17) (challenge : Bytes) :
    ∃ answer, ofValue challenge value = .ok answer ∧ answer.challenge = challenge ∧
      value = answer.identifier :: answer.response.bytes := by
  cases value with
  | nil => cases h
  | cons identifier response =>
      have hresponse : response.length = 16 := by simpa using h
      refine ⟨⟨identifier, ⟨response, hresponse⟩, challenge⟩, ?_, rfl, rfl⟩
      have hblock : Octets.ofBytes? 16 response = some ⟨response, hresponse⟩ :=
        Octets.ofBytes?_eq_some_iff.mpr rfl
      simp only [ofValue, hblock]

/-- A candidate is accepted when it gives the digest that was sent. -/
theorem accepts_iff {hash : Hash} {answer : ChapAnswer} {candidate : Bytes} :
    answer.accepts hash candidate ↔
      hash (answer.identifier :: candidate ++ answer.challenge) = answer.response := by
  rw [accepts, Authenticator.agrees_iff, Password.chapResponse, Octets.ext_iff]
  exact eq_comm

end ChapAnswer

namespace AccessRequest

/-! ## Placing the answer -/

/-- The packet with an answer and its challenge in place of the credentials it had. -/
def withAnswer (packet : Packet) (answer : ChapAnswer) : Packet :=
  ((withoutCredentials packet).addAttribute
    (.standard AttributeType.chapPassword answer.toValue)).addAttribute
    (.standard AttributeType.chapChallenge answer.challenge)

section

variable (packet : Packet) (answer : ChapAnswer)

theorem attributesOfType_withAnswer (type : UInt8) :
    (withAnswer packet answer).attributesOfType type =
      (withoutCredentials packet).attributesOfType type ++
        (if AttributeType.chapPassword = type
          then [.standard AttributeType.chapPassword answer.toValue] else []) ++
        if AttributeType.chapChallenge = type
          then [.standard AttributeType.chapChallenge answer.challenge] else [] := by
  rw [withAnswer, Packet.attributesOfType_addAttribute, Packet.attributesOfType_addAttribute]

/-- Credentials from before do not get between the answer, its challenge and the receiver. -/
theorem userPassword_withAnswer :
    (withAnswer packet answer).attribute? AttributeType.userPassword = none := by
  rw [Packet.attribute?, attributesOfType_withAnswer,
    attributesOfType_withoutCredentials packet (.inl rfl)]
  rfl

theorem chapPassword_withAnswer :
    (withAnswer packet answer).attribute? AttributeType.chapPassword =
      some (.standard AttributeType.chapPassword answer.toValue) := by
  rw [Packet.attribute?, attributesOfType_withAnswer,
    attributesOfType_withoutCredentials packet (.inr (.inl rfl))]
  rfl

theorem chapChallenge_withAnswer :
    (withAnswer packet answer).attribute? AttributeType.chapChallenge =
      some (.standard AttributeType.chapChallenge answer.challenge) := by
  rw [Packet.attribute?, attributesOfType_withAnswer,
    attributesOfType_withoutCredentials packet (.inr (.inr rfl))]
  rfl

end

theorem canonical_withAnswer {packet : Packet} (h : packet.Canonical) {answer : ChapAnswer}
    (hchallenge : answer.challenge.length ≤ 253) : (withAnswer packet answer).Canonical := by
  have hvalue : answer.toValue.length ≤ 253 := by
    rw [ChapAnswer.toValue, List.length_cons, answer.response.length_bytes]
    decide
  have hanswerType : AttributeType.chapPassword ≠ AttributeType.vendorSpecific := by decide
  have hchallengeType : AttributeType.chapChallenge ≠ AttributeType.vendorSpecific := by decide
  have hanswered := (canonical_withoutCredentials h).addAttribute ⟨rfl, hanswerType, hvalue⟩
  exact hanswered.addAttribute ⟨rfl, hchallengeType, hchallenge⟩

section

variable {hash : Hash} {draws : Draws} {secret password : Bytes}

/-- Under CHAP the request is sent with the answer to the drawn challenge as its only credentials,
and keeps the answer and the password beside them. -/
theorem encodeRequest_of_chap {request encoded : AccessRequest}
    (hprotocol : request.protocol = .chap) (hpassword : request.password = some password)
    (h : request.encodeRequest hash draws secret = .ok encoded) :
    (withAnswer request.packet (drawnAnswer hash draws password)).Fits ∧
      encoded.packet = (withAnswer request.packet (drawnAnswer hash draws password)).withAuthenticator
        (request.packet.authenticator.getD draws.authenticator) ∧
      encoded.chap = some (drawnAnswer hash draws password) := by
  obtain ⟨placed, hplaced, hfits, rfl⟩ := encodeRequest_eq_ok_iff.mp h
  simp only [placeCredentials, hpassword, hprotocol, Except.ok.injEq] at hplaced
  subst hplaced
  exact ⟨hfits, rfl, rfl⟩

/-! ## Recovering the answer -/

/-- The challenge that an answer in a packet with this authenticator is given to. -/
def challengeOf (packet : Packet) (authenticator : Block) : Bytes :=
  ((packet.attribute? AttributeType.chapChallenge).map (·.value)).getD authenticator.bytes

/-- An answer counts where there is no hidden password. -/
theorem ofReceived_of_answer {packet : Packet} {authenticator : Block} {attr : Attribute}
    {answer : ChapAnswer} (hauthenticator : packet.authenticator = some authenticator)
    (hhidden : packet.attribute? AttributeType.userPassword = none)
    (hfound : packet.attribute? AttributeType.chapPassword = some attr)
    (hanswer : ChapAnswer.ofValue (challengeOf packet authenticator) attr.value = .ok answer) :
    ofReceived hash secret packet =
      .ok { ofPacket packet with protocol := .chap, chap := some answer } := by
  unfold challengeOf at hanswer
  unfold ofReceived
  simp only [hauthenticator, hhidden, hfound]
  cases hchallenge : packet.attribute? AttributeType.chapChallenge with
  | none =>
      rw [hchallenge] at hanswer
      exact congrArg (Except.map _) hanswer
  | some given =>
      rw [hchallenge] at hanswer
      exact congrArg (Except.map _) hanswer

theorem ofReceived_withAnswer (packet : Packet) (answer : ChapAnswer) (authenticator : Block) :
    ofReceived hash secret ((withAnswer packet answer).withAuthenticator authenticator) =
      .ok { ofPacket ((withAnswer packet answer).withAuthenticator authenticator) with
        protocol := .chap, chap := some answer } := by
  refine ofReceived_of_answer rfl (userPassword_withAnswer packet answer)
    (chapPassword_withAnswer packet answer) ?_
  have hchallenge : challengeOf ((withAnswer packet answer).withAuthenticator authenticator)
      authenticator = answer.challenge :=
    congrArg (fun found => (found.map Attribute.value).getD authenticator.bytes)
      (chapChallenge_withAnswer packet answer)
  rw [hchallenge]
  exact answer.ofValue_toValue

theorem verifyPassword_of_answer {request : AccessRequest} {answer : ChapAnswer}
    (h : request.chap = some answer) (candidate : Bytes) :
    request.verifyPassword hash candidate = answer.accepts hash candidate := by
  simp only [verifyPassword, h]

/-- The answer to a drawn challenge accepts what gives the digest that the password gives. -/
theorem drawnAnswer_accepts_iff {candidate : Bytes} :
    (drawnAnswer hash draws password).accepts hash candidate ↔
      hash (draws.identifier :: candidate ++ draws.challenge.bytes) =
        hash (draws.identifier :: password ++ draws.challenge.bytes) :=
  ChapAnswer.accepts_iff

end

/-! ## From the sender to the receiver -/

section

variable {hash : Hash} {draws : Draws} {password : Bytes}

/-- What the sender of a request with a drawn answer keeps, and what its receiver gets. -/
theorem answered_is_received {secret receiverSecret : Bytes} {request encoded : AccessRequest}
    (hcode : request.packet.code = .accessRequest) (hprotocol : request.protocol = .chap)
    (hpassword : request.password = some password) (hcanonical : request.packet.Canonical)
    (hencoded : request.encodeRequest hash draws secret = .ok encoded) :
    ∃ datagram,
      (Message.access encoded).toDatagram = .ok datagram ∧
      Message.ofRequestDatagram hash datagram receiverSecret =
        .ok (.access { ofPacket encoded.packet with
          protocol := .chap, chap := some (drawnAnswer hash draws password) }) ∧
      encoded.chap = some (drawnAnswer hash draws password) := by
  obtain ⟨hfits, hsent, hkept⟩ := encodeRequest_of_chap hprotocol hpassword hencoded
  have hchallenge : (drawnAnswer hash draws password).challenge.length ≤ 253 := by
    rw [drawnAnswer, draws.challenge.length_bytes]
    decide
  have hplacedCanonical := canonical_withAnswer hcanonical hchallenge
  have hreceived : ofReceived hash receiverSecret
      ((withAnswer request.packet (drawnAnswer hash draws password)).withAuthenticator
        (request.packet.authenticator.getD draws.authenticator)) = .ok _ :=
    ofReceived_withAnswer _ _ _
  have hplacedCode : (withAnswer request.packet (drawnAnswer hash draws password)).code =
    .accessRequest := hcode
  generalize withAnswer request.packet (drawnAnswer hash draws password) = placed at *
  generalize request.packet.authenticator.getD draws.authenticator = authenticator at *
  refine ⟨placed.octets authenticator, ?_, ?_, hkept⟩
  · rw [Message.toDatagram, Message.packet, hsent]
    exact Packet.encode_withAuthenticator hfits authenticator
  · rw [hsent]
    exact ofRequestDatagram_of_access hplacedCode hplacedCanonical hfits authenticator hreceived

end

/-- An answer without a challenge beside it is received as one to the authenticator. -/
theorem authenticator_is_challenge {hash : Hash} {datagram : Bytes} {frame : Frame}
    {attr : Attribute} (hframe : Frame.ofBytes datagram = .ok frame) (hcode : frame.code = 1)
    (hhidden : frame.packet.attribute? AttributeType.userPassword = none)
    (hfound : frame.packet.attribute? AttributeType.chapPassword = some attr)
    (hlength : attr.value.length = 17)
    (hchallenge : frame.packet.attribute? AttributeType.chapChallenge = none) (secret : Bytes) :
    ∃ answer, attr.value = answer.identifier :: answer.response.bytes ∧
      answer.challenge = frame.authenticator.bytes ∧
      Message.ofRequestDatagram hash datagram secret =
        .ok (.access { ofPacket frame.packet with protocol := .chap, chap := some answer }) := by
  obtain ⟨answer, hanswer, hauthenticator, hvalue⟩ :=
    ChapAnswer.ofValue_of_length hlength frame.authenticator.bytes
  refine ⟨answer, hvalue, hauthenticator, ?_⟩
  have hgiven : challengeOf frame.packet frame.authenticator = frame.authenticator.bytes := by
    rw [challengeOf, hchallenge]
    rfl
  have hreceived : ofReceived hash secret frame.packet =
      .ok { ofPacket frame.packet with protocol := .chap, chap := some answer } :=
    ofReceived_of_answer rfl hhidden hfound (hgiven ▸ hanswer)
  have haccess : Message.ofPacket frame.packet = .access (ofPacket frame.packet) :=
    Message.ofPacket_of_access (congrArg Code.ofUInt8 hcode)
  rw [Message.ofRequestDatagram_eq_ok_iff]
  refine ⟨frame, hframe, fun haccounting => ?_, ?_⟩
  · rw [hcode] at haccounting
    exact absurd haccounting (by decide)
  · rw [Message.ofReceived, haccess]
    exact congrArg (Except.map Message.access) hreceived

/-- A request that is sent under CHAP is received, under any secret, as the packet that was sent,
without its password. Both sides then accept the candidates that give the digest which the password
gives for the drawn identifier and challenge. A request that comes without a challenge accepts
those that give the digest it carries for its own authenticator. -/
theorem answer_is_verified (hash : Hash) :
    (∀ (draws : Draws) (secret receiverSecret password : Bytes) (request encoded : AccessRequest),
      request.packet.code = .accessRequest → request.protocol = .chap →
      request.password = some password → (∀ attr ∈ request.packet.attributes, attr.Canonical) →
      request.encodeRequest hash draws secret = .ok encoded →
      ∃ datagram received,
        (Message.access encoded).toDatagram = .ok datagram ∧
        Message.ofRequestDatagram hash datagram receiverSecret = .ok (.access received) ∧
        received.packet = encoded.packet ∧
        received.protocol = .chap ∧
        received.password = none ∧
        (∀ candidate,
          encoded.verifyPassword hash candidate = received.verifyPassword hash candidate ∧
          (received.verifyPassword hash candidate ↔
            hash (draws.identifier :: candidate ++ draws.challenge.bytes) =
              hash (draws.identifier :: password ++ draws.challenge.bytes))) ∧
        received.verifyPassword hash password) ∧
    ∀ (datagram secret : Bytes) (frame : Frame) (attr : Attribute),
      Frame.ofBytes datagram = .ok frame → frame.code = 1 →
      frame.packet.attribute? AttributeType.userPassword = none →
      frame.packet.attribute? AttributeType.chapPassword = some attr → attr.value.length = 17 →
      frame.packet.attribute? AttributeType.chapChallenge = none →
      ∃ received,
        Message.ofRequestDatagram hash datagram secret = .ok (.access received) ∧
        received.packet = frame.packet ∧
        ∀ candidate, received.verifyPassword hash candidate ↔
          (hash (attr.value.take 1 ++ candidate ++ frame.authenticator.bytes)).bytes =
            attr.value.drop 1 := by
  constructor
  · intro draws secret receiverSecret password request encoded hcode hprotocol hpassword
      hcanonical hencoded
    obtain ⟨datagram, hdatagram, hreceived, hkept⟩ :=
      answered_is_received hcode hprotocol hpassword hcanonical hencoded
    refine ⟨datagram, _, hdatagram, hreceived, rfl, rfl, rfl, fun candidate => ⟨?_, ?_⟩, ?_⟩
    · rw [verifyPassword_of_answer hkept, verifyPassword_of_answer rfl]
    · rw [verifyPassword_of_answer rfl]
      exact drawnAnswer_accepts_iff
    · rw [verifyPassword_of_answer rfl]
      exact drawnAnswer_accepts_iff.mpr rfl
  · intro datagram secret frame attr hframe hcode hhidden hfound hlength hchallenge
    obtain ⟨answer, hvalue, hauthenticator, hreceived⟩ :=
      authenticator_is_challenge hframe hcode hhidden hfound hlength hchallenge secret
    refine ⟨_, hreceived, rfl, fun candidate => ?_⟩
    rw [verifyPassword_of_answer rfl, ChapAnswer.accepts_iff, hauthenticator, hvalue, Octets.ext_iff]
    rfl

/-! ## Sample requests

The stale request of before, sent under CHAP this time, and a request of the user flopsy that
answers its own authenticator. -/

namespace Sample

def challenged : AccessRequest := { stale with protocol := .chap }

def challengeDraws : Draws where
  authenticator := Message.Sample.authenticator
  challenge :=
    ⟨[0xa0, 0xa1, 0xa2, 0xa3, 0xa4, 0xa5, 0xa6, 0xa7, 0xa8, 0xa9, 0xaa, 0xab, 0xac, 0xad, 0xae, 0xaf],
      rfl⟩
  identifier := 0x16

def answer : ChapAnswer where
  identifier := 0x16
  response :=
    ⟨[0x42, 0x98, 0x9a, 0x06, 0xd2, 0x04, 0x12, 0x51, 0x40, 0x32, 0x38, 0x38, 0xb9, 0xe2, 0xa7, 0x27],
      rfl⟩
  challenge := challengeDraws.challenge.bytes

/-- The challenged request as it is sent. -/
def answered : AccessRequest :=
  { challenged with
    packet :=
      { stale.packet with
        authenticator := some Message.Sample.authenticator
        attributes :=
          [.standard ⟨none, 1, [0x6e, 0x65, 0x6d, 0x6f]⟩, .container ⟨9, [⟨some 9, 2, [0x6e]⟩]⟩,
            .standard ⟨none, 3, answer.toValue⟩, .standard ⟨none, 60, answer.challenge⟩] }
    chap := some answer }

def flopsy : Frame where
  code := 1
  identifier := 1
  authenticator :=
    ⟨[0x2a, 0xee, 0x86, 0xf0, 0x8d, 0x0d, 0x55, 0x96, 0x9c, 0xa5, 0x97, 0x8e, 0x0d, 0x33, 0x67, 0xa2],
      rfl⟩
  attributes :=
    [.standard ⟨none, 1, [0x66, 0x6c, 0x6f, 0x70, 0x73, 0x79]⟩,
      .standard ⟨none, 3, [0x16, 0xe9, 0x75, 0x57, 0xc3, 0x16, 0x18, 0x58, 0x95, 0xf2, 0x93, 0xff, 0x63,
        0x44, 0x07, 0x72, 0x75]⟩]
  bytes :=
    [0x01, 0x01, 0x00, 0x2f,
      0x2a, 0xee, 0x86, 0xf0, 0x8d, 0x0d, 0x55, 0x96, 0x9c, 0xa5, 0x97, 0x8e, 0x0d, 0x33, 0x67, 0xa2,
      0x01, 0x08, 0x66, 0x6c, 0x6f, 0x70, 0x73, 0x79,
      0x03, 0x13, 0x16, 0xe9, 0x75, 0x57, 0xc3, 0x16, 0x18, 0x58, 0x95, 0xf2, 0x93, 0xff, 0x63, 0x44,
      0x07, 0x72, 0x75]

end Sample

theorem sample_is_verified :
    (Sample.challenged.encodeRequest Md5.digest Sample.challengeDraws Message.Sample.secret =
        .ok Sample.answered ∧
      (∀ attr ∈ Sample.challenged.packet.attributes, attr.Canonical) ∧
      ∃ datagram received, (Message.access Sample.answered).toDatagram = .ok datagram ∧
        Message.ofRequestDatagram Md5.digest datagram [] = .ok (.access received) ∧
        received.packet = Sample.answered.packet ∧
        received.verifyPassword Md5.digest Sample.password ∧
        ¬ received.verifyPassword Md5.digest Message.Sample.password) ∧
    Frame.ofBytes Sample.flopsy.bytes = .ok Sample.flopsy ∧
    ∃ received,
      Message.ofRequestDatagram Md5.digest Sample.flopsy.bytes [] = .ok (.access received) ∧
      received.verifyPassword Md5.digest Message.Sample.password ∧
      ¬ received.verifyPassword Md5.digest Sample.password := by
  have hencoded : Sample.challenged.encodeRequest Md5.digest Sample.challengeDraws
      Message.Sample.secret = .ok Sample.answered := by decide +kernel
  have hcanonical : ∀ attr ∈ Sample.challenged.packet.attributes, attr.Canonical := by decide
  have hframe : Frame.ofBytes Sample.flopsy.bytes = .ok Sample.flopsy := by decide +kernel
  have hverified := answer_is_verified Md5.digest
  refine ⟨⟨hencoded, hcanonical, ?_⟩, hframe, ?_⟩
  · obtain ⟨datagram, received, hdatagram, hreceived, hpacket, -, -, hcandidates, hpassword⟩ :=
      hverified.1 Sample.challengeDraws Message.Sample.secret [] Sample.password Sample.challenged
        Sample.answered rfl rfl rfl hcanonical hencoded
    refine ⟨datagram, received, hdatagram, hreceived, hpacket, hpassword, ?_⟩
    rw [(hcandidates _).2]
    decide +kernel
  · obtain ⟨received, hreceived, -, hcandidates⟩ :=
      hverified.2 Sample.flopsy.bytes [] Sample.flopsy
        ⟨none, 3, [0x16, 0xe9, 0x75, 0x57, 0xc3, 0x16, 0x18, 0x58, 0x95, 0xf2, 0x93, 0xff, 0x63, 0x44,
          0x07, 0x72, 0x75]⟩ hframe rfl (by decide) (by decide) rfl (by decide)
    refine ⟨received, hreceived, ?_, ?_⟩
    · rw [hcandidates]
      decide +kernel
    · rw [hcandidates]
      decide +kernel

end AccessRequest
end Radius
