-- SUMMARY: Encoding an Access-Request changes its credentials only, and fails only for a password or attributes that are too long.
import Radius.Proofs.Packet.Challenge
import Radius.Proofs.Packet.Lengths
import Radius.Proofs.Packet.Reencoding

/-!
# Credentials of Access-Requests

A request may come to be encoded with credentials in it already: they were received with it, or it
was encoded before, under the other protocol perhaps. When its password is known they are all
removed, and those that the protocol asks for are appended. When it is not, the attributes are left
as they are. Nothing else of the request changes, apart from an authenticator where it had none.
-/

namespace Radius.AccessRequest

/-! ## Attributes that carry a password -/

/-- The attributes that carry a password: its hidden form, or the answer to the drawn challenge
and the challenge. -/
inductive Carries (hash : Hash) (draws : Draws) (secret : Bytes) (authenticator : Block)
    (password : Bytes) : AuthProtocol → List PacketAttribute → Prop
  | pap {hidden : Bytes} :
      Password.hide hash password secret authenticator = .ok hidden →
      Carries hash draws secret authenticator password .pap
        [.standard (.standard AttributeType.userPassword hidden)]
  | chap {response : Block} :
      hash (draws.identifier :: password ++ draws.challenge.bytes) = response →
      Carries hash draws secret authenticator password .chap
        [.standard (.standard AttributeType.chapPassword (draws.identifier :: response.bytes)),
          .standard (.standard AttributeType.chapChallenge draws.challenge.bytes)]

/-- The attributes that a request is sent with. -/
inductive SentWith (hash : Hash) (draws : Draws) (secret : Bytes) (request : AccessRequest) :
    List PacketAttribute → Prop
  | unknown : request.password = none →
      SentWith hash draws secret request request.packet.attributes
  | known {password : Bytes} {credentials : List PacketAttribute} :
      request.password = some password →
      Carries hash draws secret (request.packet.authenticator.getD draws.authenticator) password
        request.protocol credentials →
      SentWith hash draws secret request (request.packet.attributes.filter isPlain ++ credentials)

/-- What a request is when it is sent. -/
structure Sent (hash : Hash) (draws : Draws) (secret : Bytes) (request encoded : AccessRequest) :
    Prop where
  code : encoded.packet.code = request.packet.code
  identifier : encoded.packet.identifier = request.packet.identifier
  authenticator : encoded.packet.authenticator =
    some (request.packet.authenticator.getD draws.authenticator)
  protocol : encoded.protocol = request.protocol
  password : encoded.password = request.password
  attributes : SentWith hash draws secret request encoded.packet.attributes

theorem attributes_withAnswer (packet : Packet) (answer : ChapAnswer) :
    (withAnswer packet answer).attributes =
      packet.attributes.filter isPlain ++
        [.standard (.standard AttributeType.chapPassword answer.toValue),
          .standard (.standard AttributeType.chapChallenge answer.challenge)] := by
  rw [withAnswer, Packet.attributes_addAttribute, Packet.attributes_addAttribute,
    attributes_withoutCredentials, List.append_assoc]
  rfl

section

variable {hash : Hash} {draws : Draws} {secret password : Bytes} {authenticator : Block}
  {protocol : AuthProtocol} {carried attributes : List PacketAttribute}
  {request placed encoded : AccessRequest} {fault : PacketError}

/-! ## Placing credentials -/

theorem sentWith_withPassword {hidden : Bytes} (hpassword : request.password = some password)
    (hprotocol : request.protocol = .pap)
    (hhidden : Password.hide hash password secret
      (request.packet.authenticator.getD draws.authenticator) = .ok hidden) :
    SentWith hash draws secret request (withPassword request.packet hidden).attributes := by
  rw [attributes_withPassword]
  refine .known hpassword ?_
  rw [hprotocol]
  exact .pap hhidden

theorem sentWith_withAnswer (hpassword : request.password = some password)
    (hprotocol : request.protocol = .chap) :
    SentWith hash draws secret request
      (withAnswer request.packet (drawnAnswer hash draws password)).attributes := by
  rw [attributes_withAnswer]
  refine .known hpassword ?_
  rw [hprotocol]
  exact .chap rfl

/-- Credentials that can be placed change the attributes only. -/
theorem sentWith_of_placeCredentials
    (h : placeCredentials hash draws secret (request.packet.authenticator.getD draws.authenticator)
      request = .ok placed) :
    SentWith hash draws secret request placed.packet.attributes ∧
      placed.packet = { request.packet with attributes := placed.packet.attributes } ∧
      placed.protocol = request.protocol ∧ placed.password = request.password := by
  unfold placeCredentials at h
  split at h
  · rename_i hpassword
    cases h
    exact ⟨.unknown hpassword, rfl, rfl, rfl⟩
  · rename_i password hpassword hprotocol
    obtain ⟨hidden, hhidden, rfl⟩ := Except.map_eq_ok_iff.mp h
    exact ⟨sentWith_withPassword hpassword hprotocol hhidden, rfl, rfl, rfl⟩
  · rename_i password hpassword hprotocol
    cases h
    exact ⟨sentWith_withAnswer hpassword hprotocol, rfl, rfl, rfl⟩

/-- Credentials can be placed wherever there are attributes for the request to be sent with. -/
theorem placeCredentials_of_sentWith (h : SentWith hash draws secret request attributes) :
    ∃ placed, placeCredentials hash draws secret
        (request.packet.authenticator.getD draws.authenticator) request = .ok placed ∧
      placed.packet.attributes = attributes := by
  unfold placeCredentials
  cases h with
  | unknown hpassword => exact ⟨request, by simp only [hpassword], rfl⟩
  | known hpassword hcarries =>
      generalize hprotocol : request.protocol = protocol at hcarries
      cases hcarries with
      | pap hhidden =>
          simp only [hpassword, hhidden]
          exact ⟨_, rfl, attributes_withPassword _ _⟩
      | @chap response hresponse =>
          simp only [hpassword]
          refine ⟨_, rfl, ?_⟩
          subst hresponse
          exact attributes_withAnswer _ (drawnAnswer hash draws _)

theorem placeCredentials_eq_error_iff :
    placeCredentials hash draws secret authenticator request = .error fault ↔
      ∃ password, request.password = some password ∧ request.protocol = .pap ∧
        128 < password.length ∧ fault = .passwordTooLong password.length := by
  unfold placeCredentials
  split
  · rename_i hpassword
    simp [hpassword]
  · rename_i password hpassword hprotocol
    simp [Except.map_eq_error_iff, Password.hide_eq_error_iff, Password.maxLength, hpassword,
      hprotocol]
  · rename_i password hpassword hprotocol
    simp [hprotocol]

/-- Nothing but credentials is placed, and then nothing but the lengths is looked at. -/
theorem encodeRequest_eq_error_iff :
    request.encodeRequest hash draws secret = .error fault ↔
      (∃ password, request.password = some password ∧ request.protocol = .pap ∧
        128 < password.length ∧ fault = .passwordTooLong password.length) ∨
      ∃ attributes, SentWith hash draws secret request attributes ∧
        Packet.TooLong { request.packet with attributes } fault := by
  unfold encodeRequest
  simp only [bind, Except.bind_eq_error_iff, placeCredentials_eq_error_iff, pure, Except.pure,
    reduceCtorEq, and_false, exists_false, or_false]
  refine or_congr Iff.rfl ⟨?_, ?_⟩
  · rintro ⟨placed, hplaced, hfault⟩
    obtain ⟨hsent, hpacket, -⟩ := sentWith_of_placeCredentials hplaced
    refine ⟨placed.packet.attributes, hsent, ?_⟩
    rw [← hpacket]
    exact ((placed.packet.decided_authenticate _).error_iff fault).mp hfault
  · rintro ⟨attributes, hsent, hfault⟩
    obtain ⟨placed, hplaced, rfl⟩ := placeCredentials_of_sentWith hsent
    obtain ⟨-, hpacket, -⟩ := sentWith_of_placeCredentials hplaced
    rw [← hpacket] at hfault
    exact ⟨placed, hplaced, ((placed.packet.decided_authenticate _).error_iff fault).mpr hfault⟩

/-- A request that can be sent is sent with its own parts, save for its credentials. -/
theorem sent_of_encodeRequest (h : request.encodeRequest hash draws secret = .ok encoded) :
    Sent hash draws secret request encoded := by
  obtain ⟨placed, hplaced, -, rfl⟩ := encodeRequest_eq_ok_iff.mp h
  obtain ⟨hsent, hpacket, hprotocol, hpassword⟩ := sentWith_of_placeCredentials hplaced
  have hcode : placed.packet.code = request.packet.code := by rw [hpacket]
  have hidentifier : placed.packet.identifier = request.packet.identifier := by rw [hpacket]
  exact
    { code := hcode
      identifier := hidentifier
      authenticator := rfl
      protocol := hprotocol
      password := hpassword
      attributes := hsent }

/-! ## Credentials among the attributes -/

theorem Carries.not_plain
    (h : Carries hash draws secret authenticator password protocol carried) :
    ∀ attr ∈ carried, isPlain attr = false := by
  cases h with
  | pap _ => exact List.forall_mem_singleton.mpr rfl
  | chap _ => exact List.forall_mem_cons.mpr ⟨rfl, List.forall_mem_singleton.mpr rfl⟩

/-- A request with a known password is sent with the credentials of this password, whatever it had
before. -/
theorem SentWith.carries (h : SentWith hash draws secret request attributes)
    (hpassword : request.password = some password) :
    Carries hash draws secret (request.packet.authenticator.getD draws.authenticator) password
      request.protocol (attributes.filter (!isPlain ·)) := by
  cases h with
  | unknown hunknown =>
      rw [hunknown] at hpassword
      cases hpassword
  | known hknown hcarries =>
      rw [hknown] at hpassword
      cases hpassword
      have hplain : (request.packet.attributes.filter isPlain).filter (!isPlain ·) = [] := by
        simp [List.filter_filter]
      have hcredentials := List.filter_eq_self.mpr fun attr hattr =>
        (congrArg Bool.not (hcarries.not_plain attr hattr) : (!isPlain attr) = true)
      rw [List.filter_append, hplain, hcredentials, List.nil_append]
      exact hcarries

end

/-- Encoding a request keeps its code, identifier, protocol and password, and an authenticator that
it has. Its attributes are kept while the password is not known; when it is, those that carry
credentials make room for one hidden password under PAP, and for one answer and its challenge under
CHAP. There is no result exactly if a password to be hidden has more than 128 octets, or else the
packet with these attributes is too long. -/
theorem encoding_replaces_credentials (hash : Hash) (draws : Draws) (secret : Bytes)
    (request : AccessRequest) :
    (∀ encoded, request.encodeRequest hash draws secret = .ok encoded →
      Sent hash draws secret request encoded ∧
      ∀ password, request.password = some password →
        (request.protocol = .pap → ∃ hidden,
          encoded.packet.attributes.filter (!isPlain ·) = [.standard ⟨none, 2, hidden⟩]) ∧
        (request.protocol = .chap → ∃ answer challenge,
          answer.length = 17 ∧ challenge.length = 16 ∧
          encoded.packet.attributes.filter (!isPlain ·) =
            [.standard ⟨none, 3, answer⟩, .standard ⟨none, 60, challenge⟩])) ∧
    ∀ fault, request.encodeRequest hash draws secret = .error fault ↔
      (∃ password, request.password = some password ∧ request.protocol = .pap ∧
        128 < password.length ∧ fault = .passwordTooLong password.length) ∨
      ∃ attributes, SentWith hash draws secret request attributes ∧
        Packet.TooLong { request.packet with attributes } fault := by
  refine ⟨fun encoded hencoded => ?_, fun fault => encodeRequest_eq_error_iff⟩
  have hsent := sent_of_encodeRequest hencoded
  refine ⟨hsent, fun password hpassword => ?_⟩
  have hcarries := hsent.attributes.carries hpassword
  generalize encoded.packet.attributes.filter (!isPlain ·) = credentials at hcarries ⊢
  generalize request.protocol = protocol at hcarries ⊢
  cases hcarries with
  | pap _ => exact ⟨fun _ => ⟨_, rfl⟩, nofun⟩
  | @chap response _ =>
      refine ⟨nofun, fun _ => ⟨_, _, ?_, draws.challenge.length_bytes, rfl⟩⟩
      rw [List.length_cons, response.length_bytes]

/-! ## Sample requests

The stale request once more, sent under PAP first and then under CHAP. -/

namespace Sample

/-- The request that was sent with a hidden password, to be sent again with an answer. -/
def switched : AccessRequest := { sent with protocol := .chap }

/-- A password with one octet too many. -/
def lengthy : AccessRequest := { stale with password := some (List.replicate 129 0x61) }

end Sample

theorem sample_encoding_replaces_credentials :
    (Sample.stale.encodeRequest Md5.digest Sample.draws Message.Sample.secret = .ok Sample.sent ∧
      Sample.sent.password = Sample.stale.password ∧
      ∃ hidden, Sample.sent.packet.attributes.filter (!isPlain ·) =
        [.standard ⟨none, 2, hidden⟩]) ∧
    (Sample.switched.encodeRequest Md5.digest Sample.challengeDraws Message.Sample.secret =
        .ok Sample.answered ∧
      Sample.answered.packet.authenticator = Sample.sent.packet.authenticator ∧
      ∃ answer challenge, answer.length = 17 ∧ challenge.length = 16 ∧
        Sample.answered.packet.attributes.filter (!isPlain ·) =
          [.standard ⟨none, 3, answer⟩, .standard ⟨none, 60, challenge⟩]) ∧
    Sample.lengthy.encodeRequest Md5.digest Sample.draws Message.Sample.secret =
      .error (.passwordTooLong 129) := by
  have hhidden : Sample.stale.encodeRequest Md5.digest Sample.draws Message.Sample.secret =
      .ok Sample.sent := by decide +kernel
  have hanswered : Sample.switched.encodeRequest Md5.digest Sample.challengeDraws
      Message.Sample.secret = .ok Sample.answered := by decide +kernel
  refine ⟨⟨hhidden, ?_⟩, ⟨hanswered, ?_⟩, ?_⟩
  · obtain ⟨hsent, hcarried⟩ := (encoding_replaces_credentials _ _ _ _).1 _ hhidden
    exact ⟨hsent.password, (hcarried _ rfl).1 rfl⟩
  · obtain ⟨hsent, hcarried⟩ := (encoding_replaces_credentials _ _ _ _).1 _ hanswered
    exact ⟨hsent.authenticator, (hcarried _ rfl).2 rfl⟩
  · have hlength : (List.replicate 129 (0x61 : UInt8)).length = 129 := List.length_replicate
    refine ((encoding_replaces_credentials _ _ _ _).2 _).mpr (.inl ⟨_, rfl, rfl, ?_, ?_⟩)
    · rw [hlength]
      decide
    · rw [hlength]

end Radius.AccessRequest
