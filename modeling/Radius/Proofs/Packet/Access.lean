-- SUMMARY: Passwords from the sender of an Access-Request to its receiver, past any credentials that the request had before.
import Radius.Proofs.Packet.Signing
import Radius.Proofs.Secret.Password

/-!
# Passwords in Access-Requests

Encoding a request removes every attribute that carries credentials before it appends
the hidden password. Whoever receives the request looks up the first User-Password,
which is therefore the one just appended, and reveals it under the authenticator that
it was hidden under.
-/

namespace Radius

/-! ## Adding, removing and finding -/

namespace Packet

section

variable {packet : Packet}

theorem mem_attributesOfType_iff {type : UInt8} {attr : Attribute} :
    attr ∈ packet.attributesOfType type ↔
      .standard attr ∈ packet.attributes ∧ attr.type = type := by
  unfold attributesOfType
  rw [List.mem_filterMap]
  constructor
  · rintro ⟨found, hfound, hattr⟩
    cases found with
    | standard found =>
        simp only [Option.ite_none_right_eq_some, Option.some.injEq] at hattr
        obtain ⟨htype, rfl⟩ := hattr
        exact ⟨hfound, htype⟩
    | container group => cases hattr
  · rintro ⟨hmem, rfl⟩
    exact ⟨_, hmem, if_pos rfl⟩

/-- Removing the attributes of a type leaves those of every other type. -/
theorem attributesOfType_removeAttributes (packet : Packet) (removed type : UInt8) :
    (packet.removeAttributes removed).attributesOfType type =
      if type = removed then [] else packet.attributesOfType type := by
  unfold attributesOfType removeAttributes
  rw [List.filterMap_filter]
  by_cases htype : type = removed
  · rw [if_pos htype, List.filterMap_eq_nil_iff]
    intro attr _
    cases attr with
    | standard attr =>
        by_cases hattr : attr.type = type
        · simp [PacketAttribute.type, hattr, htype]
        · simp [hattr]
    | container group => simp
  · rw [if_neg htype]
    congr 1
    funext attr
    cases attr with
    | standard attr =>
        by_cases hattr : attr.type = type
        · simp [PacketAttribute.type, hattr, htype]
        · simp [hattr]
    | container group => simp

theorem attributes_addAttribute (packet : Packet) (type : UInt8) (value : Bytes) :
    (packet.addAttribute (.standard type value)).attributes =
      packet.attributes ++ [.standard (.standard type value)] := rfl

/-- An attribute is found where it was added, if there was none of its type. -/
theorem attribute?_addAttribute {type : UInt8} (h : packet.attributesOfType type = [])
    (value : Bytes) :
    (packet.addAttribute (.standard type value)).attribute? type = some (.standard type value) := by
  unfold attributesOfType at h
  rw [attribute?, attributesOfType, attributes_addAttribute, List.filterMap_append, h]
  simp [Attribute.standard]

theorem Canonical.removeAttributes (h : packet.Canonical) (type : UInt8) :
    (packet.removeAttributes type).Canonical :=
  fun attr hattr => h attr (List.mem_filter.mp hattr).1

theorem Canonical.addAttribute (h : packet.Canonical) {type : UInt8} {value : Bytes}
    (hattr : (PacketAttribute.standard (.standard type value)).Canonical) :
    (packet.addAttribute (.standard type value)).Canonical := by
  intro attr hmem
  rw [attributes_addAttribute, List.mem_append, List.mem_singleton] at hmem
  rcases hmem with hmem | rfl
  · exact h attr hmem
  · exact hattr

end

end Packet

namespace AccessRequest

/-! ## Placing the password -/

/-- The packet with a hidden password in place of the credentials it had. -/
def withPassword (packet : Packet) (hidden : Bytes) : Packet :=
  (withoutCredentials packet).addAttribute (.standard AttributeType.userPassword hidden)

/-- No attribute that carries credentials is left, of any of the three types. -/
theorem attributesOfType_withoutCredentials (packet : Packet) {type : UInt8}
    (h : type = AttributeType.userPassword ∨ type = AttributeType.chapPassword ∨
      type = AttributeType.chapChallenge) :
    (withoutCredentials packet).attributesOfType type = [] := by
  unfold withoutCredentials
  simp only [Packet.attributesOfType_removeAttributes]
  rcases h with rfl | rfl | rfl <;> rfl

/-- The hidden password is the first of its type, whatever the packet had before. -/
theorem attribute?_withPassword (packet : Packet) (hidden : Bytes) :
    (withPassword packet hidden).attribute? AttributeType.userPassword =
      some (.standard AttributeType.userPassword hidden) :=
  Packet.attribute?_addAttribute (attributesOfType_withoutCredentials packet (.inl rfl)) hidden

theorem canonical_withoutCredentials {packet : Packet} (h : packet.Canonical) :
    (withoutCredentials packet).Canonical :=
  ((h.removeAttributes _).removeAttributes _).removeAttributes _

theorem canonical_withPassword {packet : Packet} (h : packet.Canonical) {hidden : Bytes}
    (hhidden : hidden.length ≤ Password.maxLength) : (withPassword packet hidden).Canonical := by
  have htype : AttributeType.userPassword ≠ AttributeType.vendorSpecific := by decide
  have hvalue : hidden.length ≤ 253 := hhidden.trans (by decide)
  exact (canonical_withoutCredentials h).addAttribute ⟨rfl, htype, hvalue⟩

section

variable {hash : Hash} {draws : Draws} {secret password : Bytes}

/-- Placing credentials gives no authenticator, so the packet is given the one they are placed
under. -/
theorem getD_authenticator_of_placeCredentials {request placed : AccessRequest} {drawn : Block}
    (h : placeCredentials hash draws secret (request.packet.authenticator.getD drawn) request =
      .ok placed) :
    placed.packet.authenticator.getD (request.packet.authenticator.getD drawn) =
      request.packet.authenticator.getD drawn := by
  have hkept : placed.packet.authenticator = request.packet.authenticator := by
    unfold placeCredentials at h
    split at h
    · cases h
      rfl
    · obtain ⟨hidden, -, rfl⟩ := Except.map_eq_ok_iff.mp h
      rfl
    · cases h
      rfl
  rw [hkept]
  cases request.packet.authenticator with
  | none => rfl
  | some authenticator => rfl

/-- Encoding places the credentials, under the authenticator that the packet is sent with. -/
theorem encodeRequest_eq_ok_iff {request encoded : AccessRequest} :
    request.encodeRequest hash draws secret = .ok encoded ↔
      ∃ placed, placeCredentials hash draws secret
          (request.packet.authenticator.getD draws.authenticator) request = .ok placed ∧
        placed.packet.Fits ∧
        encoded = { placed with
          packet := placed.packet.withAuthenticator
            (request.packet.authenticator.getD draws.authenticator) } := by
  unfold encodeRequest
  simp only [bind, Except.bind_eq_ok_iff, Packet.authenticate_eq_ok_iff, pure, Except.pure,
    Except.ok.injEq]
  constructor
  · rintro ⟨placed, hplaced, packet, ⟨hfits, rfl⟩, rfl⟩
    rw [getD_authenticator_of_placeCredentials hplaced]
    exact ⟨placed, hplaced, hfits, rfl⟩
  · rintro ⟨placed, hplaced, hfits, rfl⟩
    refine ⟨placed, hplaced, _, ⟨hfits, rfl⟩, ?_⟩
    rw [getD_authenticator_of_placeCredentials hplaced]

/-- Under PAP the request is sent with its password, hidden, as its only credentials. -/
theorem encodeRequest_of_pap {request encoded : AccessRequest} (hprotocol : request.protocol = .pap)
    (hpassword : request.password = some password)
    (h : request.encodeRequest hash draws secret = .ok encoded) :
    ∃ hidden, Password.hide hash password secret
        (request.packet.authenticator.getD draws.authenticator) = .ok hidden ∧
      (withPassword request.packet hidden).Fits ∧
      encoded.packet = (withPassword request.packet hidden).withAuthenticator
        (request.packet.authenticator.getD draws.authenticator) := by
  obtain ⟨placed, hplaced, hfits, rfl⟩ := encodeRequest_eq_ok_iff.mp h
  simp only [placeCredentials, hpassword, hprotocol, Except.map_eq_ok_iff] at hplaced
  obtain ⟨hidden, hhidden, rfl⟩ := hplaced
  exact ⟨hidden, hhidden, hfits, rfl⟩

/-! ## Recovering the password -/

theorem ofReceived_withPassword (packet : Packet) {hidden : Bytes} {authenticator : Block}
    (h : Password.hide hash password secret authenticator = .ok hidden) :
    ofReceived hash secret ((withPassword packet hidden).withAuthenticator authenticator) =
      .ok { ofPacket ((withPassword packet hidden).withAuthenticator authenticator) with
        password := some password.stripTrailingZeros } := by
  have hfound : ((withPassword packet hidden).withAuthenticator authenticator).attribute?
      AttributeType.userPassword = some (.standard AttributeType.userPassword hidden) :=
    attribute?_withPassword packet hidden
  have hrevealed := Password.reveal_of_hide h
  simp only [ofReceived, Packet.withAuthenticator_authenticator, hfound, Attribute.standard,
    hrevealed, Except.map]

/-- An Access-Request that fits is received, under any secret, as what its packet comes to. -/
theorem ofRequestDatagram_of_access {packet : Packet} (hcode : packet.code = .accessRequest)
    (hcanonical : packet.Canonical) (hfits : packet.Fits) (authenticator : Block)
    {secret : Bytes} {received : AccessRequest}
    (hreceived : ofReceived hash secret (packet.withAuthenticator authenticator) = .ok received) :
    Message.ofRequestDatagram hash (packet.octets authenticator) secret = .ok (.access received) := by
  have hcodeOctet : packet.code = Code.ofUInt8 1 := hcode
  have haccess : Message.ofPacket (packet.withAuthenticator authenticator) =
      .access (ofPacket (packet.withAuthenticator authenticator)) :=
    Message.ofPacket_of_access hcode
  rw [Message.ofRequestDatagram_octets hcodeOctet hcanonical hfits
    (fun h => absurd h (by decide)), Message.ofReceived, haccess]
  exact congrArg (Except.map Message.access) hreceived

theorem verifyPassword_of_known {request : AccessRequest} (hchap : request.chap = none)
    (hpassword : request.password = some password) (candidate : Bytes) :
    request.verifyPassword hash candidate ↔ candidate = password := by
  simp [verifyPassword, hchap, hpassword, eq_comm]

end

/-- A request that is sent under PAP is received as the packet that was sent, together with its
password less the zeros at its end, which is the one candidate that then passes. -/
theorem hidden_is_recovered (hash : Hash) (draws : Draws) (secret password : Bytes)
    (request encoded : AccessRequest) (hcode : request.packet.code = .accessRequest)
    (hprotocol : request.protocol = .pap) (hpassword : request.password = some password)
    (hcanonical : ∀ attr ∈ request.packet.attributes, attr.Canonical)
    (hencoded : request.encodeRequest hash draws secret = .ok encoded) :
    ∃ datagram received,
      (Message.access encoded).toDatagram = .ok datagram ∧
      Message.ofRequestDatagram hash datagram secret = .ok (.access received) ∧
      received.packet = encoded.packet ∧
      received.protocol = .pap ∧
      received.password = some password.stripTrailingZeros ∧
      ∀ candidate,
        received.verifyPassword hash candidate ↔ candidate = password.stripTrailingZeros := by
  obtain ⟨hidden, hhidden, hfits, hsent⟩ := encodeRequest_of_pap hprotocol hpassword hencoded
  generalize request.packet.authenticator.getD draws.authenticator = authenticator at hhidden hsent
  generalize hplaced : withPassword request.packet hidden = placed at hfits hsent
  have hplacedCode : placed.code = Code.ofUInt8 1 := by
    rw [← hplaced]
    exact hcode
  have hplacedCanonical : placed.Canonical := by
    rw [← hplaced]
    exact canonical_withPassword hcanonical (Password.length_le_of_hide hhidden)
  have hreceived := ofReceived_withPassword request.packet hhidden
  rw [hplaced] at hreceived
  refine ⟨placed.octets authenticator,
    { ofPacket (placed.withAuthenticator authenticator) with
      password := some password.stripTrailingZeros }, ?_, ?_, hsent.symm, rfl, rfl, ?_⟩
  · rw [Message.toDatagram, Message.packet, hsent]
    exact Packet.encode_withAuthenticator hfits authenticator
  · have haccess : Message.ofPacket (placed.withAuthenticator authenticator) =
        .access (ofPacket (placed.withAuthenticator authenticator)) :=
      Message.ofPacket_of_access hplacedCode
    rw [Message.ofRequestDatagram_octets hplacedCode hplacedCanonical hfits
      (fun h => absurd h (by decide)), Message.ofReceived, haccess]
    exact congrArg (Except.map Message.access) hreceived
  · exact verifyPassword_of_known rfl rfl

/-! ## A sample request

It comes with credentials of every kind from before, and its password of two blocks begins and
ends with zeros. -/

namespace Sample

open Message.Sample (authenticator)

def password : Bytes := [0, 0x6e] ++ List.replicate 14 0 ++ [0x6f, 0, 0]

def stale : AccessRequest where
  packet :=
    { code := .accessRequest
      identifier := 7
      authenticator := none
      attributes :=
        [.standard ⟨none, 2, [0x6f, 0x6c, 0x64]⟩, .standard ⟨none, 1, [0x6e, 0x65, 0x6d, 0x6f]⟩,
          .standard ⟨none, 3, []⟩, .container ⟨9, [⟨some 9, 2, [0x6e]⟩]⟩,
          .standard ⟨none, 60, [0x73]⟩, .standard ⟨none, 2, []⟩] }
  protocol := .pap
  password := some password
  chap := none

def draws : Draws := ⟨authenticator, authenticator, 0⟩

/-- The stale request as it is sent. -/
def sent : AccessRequest :=
  { stale with
    packet :=
      { stale.packet with
        authenticator := some authenticator
        attributes :=
          [.standard ⟨none, 1, [0x6e, 0x65, 0x6d, 0x6f]⟩, .container ⟨9, [⟨some 9, 2, [0x6e]⟩]⟩,
            .standard ⟨none, 2, [0x6c, 0xa2, 0x13, 0xf9, 0xf2, 0xba, 0x74, 0xab, 0x5f, 0xe2, 0xe4,
              0x3f, 0x78, 0x2a, 0x0a, 0xee, 0x6c, 0x37, 0x32, 0x03, 0x17, 0xd1, 0x14, 0xd1, 0x56,
              0x78, 0x17, 0x43, 0x4e, 0x88, 0x7f, 0x04]⟩] } }

end Sample

theorem sample_is_recovered :
    Sample.stale.encodeRequest Md5.digest Sample.draws Message.Sample.secret = .ok Sample.sent ∧
      (∀ attr ∈ Sample.stale.packet.attributes, attr.Canonical) ∧
      ∃ datagram received, (Message.access Sample.sent).toDatagram = .ok datagram ∧
        Message.ofRequestDatagram Md5.digest datagram Message.Sample.secret =
          .ok (.access received) ∧
        received.packet = Sample.sent.packet ∧
        received.password = some ([0, 0x6e] ++ List.replicate 14 0 ++ [0x6f]) ∧
        received.verifyPassword Md5.digest ([0, 0x6e] ++ List.replicate 14 0 ++ [0x6f]) ∧
        ¬ received.verifyPassword Md5.digest Sample.password := by
  have hencoded : Sample.stale.encodeRequest Md5.digest Sample.draws Message.Sample.secret =
      .ok Sample.sent := by decide +kernel
  have hcanonical : ∀ attr ∈ Sample.stale.packet.attributes, attr.Canonical := by decide
  have hstripped : Sample.password.stripTrailingZeros =
      [0, 0x6e] ++ List.replicate 14 0 ++ [0x6f] := by decide
  obtain ⟨datagram, received, hdatagram, hreceived, hpacket, -, hpassword, hverify⟩ :=
    hidden_is_recovered Md5.digest Sample.draws Message.Sample.secret Sample.password Sample.stale
      Sample.sent rfl rfl rfl hcanonical hencoded
  rw [hstripped] at hpassword hverify
  refine ⟨hencoded, hcanonical, datagram, received, hdatagram, hreceived, hpacket, hpassword,
    (hverify _).mpr rfl, ?_⟩
  rw [hverify]
  decide

end AccessRequest
end Radius
