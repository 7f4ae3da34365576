-- SUMMARY: The verifiers that see only the octets of a datagram agree with the decoders, and what was signed passes them.
import Radius.Proofs.Packet.Integrity
import Radius.Proofs.Packet.Signing

/-!
# Verifying without decoding

`Authenticator.verifyResponse` and `Authenticator.verifyAccounting` cut a datagram at fixed places
and take its end for the end of the packet. The decoders go by the declared length and cut the frame
that they have taken off. Where a datagram ends as it declares and its attributes can be read, both
hash the same octets, so the verdicts are the same, and a decoder that refuses has found nothing but
the authenticator wrong. What the signers send is such a datagram for either of them.
-/

namespace Radius

namespace Frame

/-! ## Whole datagrams -/

/-- A datagram that ends where it declares to, with an attribute list behind its authenticator. -/
structure Whole (datagram : Bytes) : Prop where
  min_le : 20 ≤ datagram.length
  le_max : datagram.length ≤ 4096
  declaredLength_eq : declaredLength datagram = datagram.length
  readable : ∃ attributes, decodeAttributes (datagram.drop 20) = .ok attributes

theorem Whole.exists_ofBytes {datagram : Bytes} (h : Whole datagram) :
    ∃ frame, Frame.ofBytes datagram = .ok frame := by
  obtain ⟨hmin, hmax, hdeclared, attributes, hdecode⟩ := h
  match datagram with
  | [] | [_] => simp at hmin
  | code :: identifier :: rest =>
      have hwhole : (code :: identifier :: rest).take
          (declaredLength (code :: identifier :: rest)) = code :: identifier :: rest := by
        rw [hdeclared, List.take_length]
      refine ⟨⟨code, identifier, Octets.ofPrefix 16 ((code :: identifier :: rest).drop 4),
          attributes, code :: identifier :: rest⟩,
        Taken.ofBytes_eq ⟨?_, ?_, hdeclared.le, ?_, hwhole.symm, rfl, hdecode⟩⟩
      · exact hdeclared ▸ hmin
      · exact hdeclared ▸ hmax
      · refine take_header ?_
        simp only [List.length_cons] at hmin
        omega

section

variable {datagram : Bytes} {frame : Frame} (h : Frame.ofBytes datagram = .ok frame)
include h

theorem head?_eq_some_code : datagram.head? = some frame.code := by
  have hheader := congrArg List.head? (taken_of_ofBytes h).header_eq
  rwa [List.head?_take, if_neg (by decide), List.head?_cons] at hheader

theorem second_eq_some_identifier : datagram[1]? = some frame.identifier := by
  have hheader := congrArg (·[1]?) (taken_of_ofBytes h).header_eq
  rwa [List.getElem?_take_of_lt (by decide)] at hheader

/-- Both cut a whole datagram at the same places. -/
theorem verifyResponse_eq_isSignedResponse (hdeclared : declaredLength datagram = datagram.length)
    (hash : Hash) (request : Block) (secret : Bytes) :
    Authenticator.verifyResponse hash datagram request secret =
      frame.isSignedResponse hash request secret := by
  have hmin := (taken_of_ofBytes h).min_le
  have hattributes : frame.attributeBytes = datagram.drop packetHeaderLength := by
    rw [attributeBytes_eq_slice h, Bytes.slice, hdeclared, List.take_length]
  rw [hdeclared] at hmin
  rw [Authenticator.verifyResponse, if_neg (Nat.not_lt.mpr hmin), isSignedResponse,
    header_eq_take h, hattributes, authenticator_eq_slice h]

/-- An Accounting-Request is signed like a response to a request with zeros as its authenticator. -/
theorem verifyAccounting_eq_isSignedAccounting
    (hdeclared : declaredLength datagram = datagram.length) (hash : Hash) (secret : Bytes) :
    Authenticator.verifyAccounting hash datagram secret =
      frame.isSignedAccounting hash secret :=
  verifyResponse_eq_isSignedResponse h hdeclared hash (Octets.zero 16) secret

end

end Frame

/-! ## Signed packets -/

/-- The octets of a packet pass if its authenticator is the digest that belongs to them. -/
theorem Packet.verifyResponse_octets {packet : Packet} {hash : Hash} {request authenticator : Block}
    {secret : Bytes} (h : authenticator =
      Authenticator.response hash packet.header request packet.attributeOctets secret) :
    Authenticator.verifyResponse hash (packet.octets authenticator) request secret := by
  have hmiddle : (packet.octets authenticator).slice 4 packetHeaderLength =
      authenticator.bytes := by
    have hfront : (packet.header ++ authenticator.bytes).length = packetHeaderLength := by
      simp [packetHeaderLength]
    rw [Bytes.slice, Packet.octets, List.take_left' hfront, List.drop_left' packet.length_header]
  have hlength : ¬ (packet.octets authenticator).length < packetHeaderLength := by
    rw [length_octets, encodedLength_eq]
    omega
  rw [Authenticator.verifyResponse, if_neg hlength, take_octets, drop_octets, hmiddle,
    Authenticator.agrees_iff, h]

theorem Packet.verifyAccounting_octets {packet : Packet} {hash : Hash} {authenticator : Block}
    {secret : Bytes} (h : authenticator =
      Authenticator.accounting hash packet.header packet.attributeOctets secret) :
    Authenticator.verifyAccounting hash (packet.octets authenticator) secret :=
  have hzero : Authenticator.verifyResponse hash (packet.octets authenticator) (Octets.zero 16)
      secret := verifyResponse_octets h
  hzero

/-- What is encoded of a signed packet are its octets with the authenticator it was signed with. -/
theorem Packet.encode_of_sign {packet signed : Packet} {datagram : Bytes}
    {authenticate : (header attributes : Bytes) → Block}
    (hsigned : packet.sign authenticate = .ok signed) (hdatagram : signed.encode = .ok datagram) :
    datagram = packet.octets (authenticate packet.header packet.attributeOctets) := by
  obtain ⟨hfits, rfl⟩ := sign_eq_ok_iff.mp hsigned
  rw [encode_withAuthenticator hfits, Except.ok.injEq] at hdatagram
  exact hdatagram.symm

namespace Message

/-! ## Decoders -/

section

variable {datagram : Bytes} {frame : Frame} (h : Frame.ofBytes datagram = .ok frame)
include h

/-- With the right identifier, a response is accepted if its frame is signed, and else refused for
its authenticator. -/
theorem ofResponseDatagram_of_frame {request : Packet} {authenticator : Block}
    (hidentifier : frame.identifier = request.identifier)
    (hauthenticator : request.authenticator = some authenticator) (hash : Hash) (secret : Bytes) :
    ofResponseDatagram hash datagram secret request =
      if frame.isSignedResponse hash authenticator secret then .ok (ofPacket frame.packet)
      else .error (.authenticatorMismatch .response) := by
  simp [ofResponseDatagram, h, hidentifier, hauthenticator]

/-- An Accounting-Request is accepted if its frame is signed, and else refused for its
authenticator. -/
theorem ofRequestDatagram_of_accounting (hcode : frame.code = 4) (hash : Hash) (secret : Bytes) :
    ofRequestDatagram hash datagram secret =
      if frame.isSignedAccounting hash secret then .ok (ofPacket frame.packet)
      else .error (.authenticatorMismatch .accountingRequest) := by
  have hne : frame.packet.code ≠ .accessRequest := by
    rw [Frame.packet, Ne, Code.ofUInt8_eq_iff rfl, hcode]
    decide
  have haccounting : frame.code = Code.accountingRequest.toUInt8 := hcode
  rw [ofRequestDatagram, h]
  cases hsigned : frame.isSignedAccounting hash secret with
  | true => simp [hsigned, ofReceived_of_ne hne]
  | false => simp [hsigned, haccounting]

end

/-! ## The verifiers -/

/-- For a datagram that is whole the verifiers decide as the decoders do: they pass exactly what is
accepted, a response to a request with its identifier and an authenticator, and an
Accounting-Request; what they do not pass is refused for its authenticator. They pass every response
and every Accounting-Request that was signed. -/
theorem verifiers_agree_with_decoders (hash : Hash) (secret : Bytes) :
    (∀ datagram, Frame.Whole datagram →
      (∀ (request : Packet) authenticator, datagram[1]? = some request.identifier →
        request.authenticator = some authenticator →
        (Authenticator.verifyResponse hash datagram authenticator secret = true ↔
          ∃ message, ofResponseDatagram hash datagram secret request = .ok message) ∧
        (Authenticator.verifyResponse hash datagram authenticator secret = false →
          ofResponseDatagram hash datagram secret request =
            .error (.authenticatorMismatch .response))) ∧
      (datagram.head? = some 4 →
        (Authenticator.verifyAccounting hash datagram secret = true ↔
          ∃ message, ofRequestDatagram hash datagram secret = .ok message) ∧
        (Authenticator.verifyAccounting hash datagram secret = false →
          ofRequestDatagram hash datagram secret =
            .error (.authenticatorMismatch .accountingRequest)))) ∧
    (∀ (message : Message) authenticator signed datagram,
      message.encodeResponse hash secret authenticator = .ok signed →
      signed.toDatagram = .ok datagram →
      Authenticator.verifyResponse hash datagram authenticator secret = true) ∧
    ∀ (packet : Packet) draws encoded datagram,
      (Message.accounting packet).encodeRequest hash draws secret = .ok encoded →
      encoded.toDatagram = .ok datagram →
      Authenticator.verifyAccounting hash datagram secret = true := by
  refine ⟨fun datagram hwhole => ?_, ?_, ?_⟩
  · obtain ⟨frame, hframe⟩ := hwhole.exists_ofBytes
    constructor
    · intro request authenticator hidentifier hauthenticator
      rw [Frame.second_eq_some_identifier hframe, Option.some.injEq] at hidentifier
      rw [Frame.verifyResponse_eq_isSignedResponse hframe hwhole.declaredLength_eq,
        ofResponseDatagram_of_frame hframe hidentifier hauthenticator]
      cases frame.isSignedResponse hash authenticator secret <;> simp
    · intro hcode
      rw [Frame.head?_eq_some_code hframe, Option.some.injEq] at hcode
      rw [Frame.verifyAccounting_eq_isSignedAccounting hframe hwhole.declaredLength_eq,
        ofRequestDatagram_of_accounting hframe hcode]
      cases frame.isSignedAccounting hash secret <;> simp
  · intro message authenticator signed datagram hsigned hdatagram
    obtain ⟨packet, hpacket, rfl⟩ := Except.map_eq_ok_iff.mp hsigned
    cases Packet.encode_of_sign hpacket hdatagram
    exact Packet.verifyResponse_octets rfl
  · intro packet draws encoded datagram hencoded hdatagram
    obtain ⟨signed, hsigned, rfl⟩ := Except.map_eq_ok_iff.mp hencoded
    cases Packet.encode_of_sign hsigned hdatagram
    exact Packet.verifyAccounting_octets rfl

/-- The sample response without the octet behind it. -/
def Sample.wholeResponse : Bytes := Sample.responseDatagram.take 38

theorem sample_verifiers_agree :
    (Frame.Whole Sample.wholeResponse ∧ Frame.Whole Sample.accountingDatagram) ∧
    (∃ message, ofResponseDatagram Md5.digest Sample.wholeResponse Sample.secret
      Sample.request.packet = .ok message) ∧
    ofRequestDatagram Md5.digest Sample.accountingDatagram [] =
      .error (.authenticatorMismatch .accountingRequest) ∧
    (Message.generic Sample.response).encodeResponse Md5.digest Sample.secret Sample.authenticator =
      .ok (.generic Sample.response) ∧
    Authenticator.verifyResponse Md5.digest Sample.wholeResponse Sample.authenticator
      Sample.secret = true := by
  have hresponse : Frame.Whole Sample.wholeResponse :=
    ⟨by decide, by decide, by decide, Sample.response.attributes, by decide +kernel⟩
  have haccounting : Frame.Whole Sample.accountingDatagram :=
    ⟨by decide, by decide, by decide,
      [.standard ⟨none, 1, [0x6e, 0x65, 0x6d, 0x6f]⟩, .standard ⟨none, 40, [0, 0, 0, 1]⟩],
      by decide +kernel⟩
  obtain ⟨hwhole, hsigned, -⟩ := verifiers_agree_with_decoders Md5.digest Sample.secret
  have hencoded : (Message.generic Sample.response).encodeResponse Md5.digest Sample.secret
      Sample.authenticator = .ok (.generic Sample.response) := by decide +kernel
  have hverified := hsigned _ _ _ Sample.wholeResponse hencoded (by decide)
  have haccepted := ((hwhole _ hresponse).1 Sample.request.packet Sample.authenticator rfl rfl).1
  have hrefused := ((verifiers_agree_with_decoders Md5.digest []).1 _ haccounting).2 rfl
  exact ⟨⟨hresponse, haccounting⟩, haccepted.mp hverified, hrefused.2 (by decide +kernel), hencoded,
    hverified⟩

end Message
end Radius
