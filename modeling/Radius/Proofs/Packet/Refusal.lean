-- SUMMARY: Why datagrams are refused: what depends on the shared secret is the check of a signature and the octets of a revealed password, nothing else.
import Radius.Proofs.Packet.Integrity
import Radius.Proofs.Packet.Signing

/-!
# Refused datagrams

Both decoders look at the layout of a datagram before they use the secret, so a fault of layout is
the same for all secrets and all requests, and a failed check means that the layout is sound.
A hidden password is refused for its length alone: whatever the secret makes of it, the request is
accepted. Who sends datagrams therefore learns nothing about the secret from the way in which they
are refused, but whether their signature is right.
-/

namespace Radius

/-! ## Faults of layout -/

/-- Whether the octets of a datagram alone show the fault. -/
def PacketError.isLayoutFault : PacketError → Bool
  | .invalidLength _      => true
  | .malformedAttribute _ => true
  | _                     => false

theorem PacketError.not_isAuthenticationFailure {fault : PacketError} (h : fault.isLayoutFault) :
    ¬ fault.isAuthenticationFailure := by
  cases fault <;> simp_all [isLayoutFault, isAuthenticationFailure]

namespace Frame

/-- A datagram that is no frame has a fault of layout. -/
theorem isLayoutFault_of_ofBytes {datagram : Bytes} {fault : PacketError}
    (h : Frame.ofBytes datagram = .error fault) : fault.isLayoutFault := by
  unfold ofBytes at h
  split at h
  case h_2 =>
    cases h
    rfl
  dsimp only at h
  split at h
  · cases h
    rfl
  split at h
  · cases h
    rfl
  split at h
  · cases h
    rfl
  obtain hdecode := Except.map_eq_error_iff.mp h
  unfold decodeAttributes at hdecode
  split at hdecode
  · cases hdecode
  · cases hdecode
    rfl

/-- The code of a frame is the first octet of its datagram. -/
theorem head?_of_ofBytes {datagram : Bytes} {frame : Frame}
    (h : Frame.ofBytes datagram = .ok frame) : datagram.head? = some frame.code := by
  have hheader := congrArg List.head? (taken_of_ofBytes h).header_eq
  rwa [List.head?_take, if_neg (by decide)] at hheader

end Frame

/-! ## Revealing passwords -/

/-- Whether a password can be revealed depends on its length only. -/
theorem Password.map_reveal {α : Type} {f : Bytes → α} (hconst : ∀ left right, f left = f right)
    (hash : Hash) (hidden secret other : Bytes) (authenticator : Block) :
    (reveal hash hidden secret authenticator).map f =
      (reveal hash hidden other authenticator).map f := by
  unfold reveal
  split
  · exact congrArg Except.ok (hconst _ _)
  · rfl

namespace Message

/-- The message without the octets of a password that is known. -/
def conceal : Message → Message
  | .access request => .access { request with password := request.password.map (fun _ => []) }
  | message         => message

@[simp] theorem packet_conceal (message : Message) : message.conceal.packet = message.packet := by
  cases message <;> rfl

end Message

/-- Recovering credentials depends on the secret in the octets of the password only. -/
theorem AccessRequest.ofReceived_conceal (hash : Hash) (secret other : Bytes) (packet : Packet) :
    (AccessRequest.ofReceived hash secret packet).map (fun request => (Message.access request).conceal) =
      (AccessRequest.ofReceived hash other packet).map
        (fun request => (Message.access request).conceal) := by
  unfold ofReceived
  split
  · rfl
  split
  · rw [Except.map_map, Except.map_map]
    exact Password.map_reveal (fun _ _ => rfl) hash _ secret other _
  · rfl
  · rfl

namespace Message

theorem ofReceived_conceal (hash : Hash) (secret other : Bytes) (packet : Packet) :
    (ofReceived hash secret packet).map conceal = (ofReceived hash other packet).map conceal := by
  unfold ofReceived
  split
  · rw [Except.map_map, Except.map_map]
    exact AccessRequest.ofReceived_conceal hash secret other _
  · rfl

/-! ## The two decoders -/

section

variable {hash : Hash} {datagram secret : Bytes} {fault : PacketError}

/-- A request is refused for its layout, for its signature, or for its credentials. -/
theorem ofRequestDatagram_eq_error_iff :
    ofRequestDatagram hash datagram secret = .error fault ↔
      Frame.ofBytes datagram = .error fault ∨
        ∃ frame, Frame.ofBytes datagram = .ok frame ∧
          ((frame.code = 4 ∧ ¬ frame.isSignedAccounting hash secret ∧
              PacketError.authenticatorMismatch .accountingRequest = fault) ∨
            (frame.code ≠ 4 ∧ ofReceived hash secret frame.packet = .error fault)) := by
  have hfour : Code.accountingRequest.toUInt8 = 4 := rfl
  unfold ofRequestDatagram
  cases hframe : Frame.ofBytes datagram with
  | error cause => simp
  | ok frame =>
      simp only [hfour, reduceCtorEq, Except.ok.injEq, false_or, exists_eq_left']
      by_cases hcode : frame.code = 4
      · have haccess : frame.packet.code ≠ .accessRequest := by
          rw [Frame.packet, Ne, Code.ofUInt8_eq_iff rfl, hcode]
          decide
        rw [ofReceived_of_ne haccess]
        by_cases hsigned : frame.isSignedAccounting hash secret
        · simp [hcode, hsigned]
        · simp [hcode, hsigned]
      · simp [hcode]

/-- A response is refused for its layout, for its identifier, for want of an authenticator to check
it against, or for its signature. -/
theorem ofResponseDatagram_eq_error_iff {request : Packet} :
    ofResponseDatagram hash datagram secret request = .error fault ↔
      Frame.ofBytes datagram = .error fault ∨
        ∃ frame, Frame.ofBytes datagram = .ok frame ∧
          ((frame.identifier ≠ request.identifier ∧
              PacketError.identifierMismatch request.identifier frame.identifier = fault) ∨
            (frame.identifier = request.identifier ∧
              ((request.authenticator = none ∧ PacketError.missingAuthenticator = fault) ∨
                ∃ authenticator, request.authenticator = some authenticator ∧
                  ¬ frame.isSignedResponse hash authenticator secret ∧
                  PacketError.authenticatorMismatch .response = fault))) := by
  unfold ofResponseDatagram
  cases hframe : Frame.ofBytes datagram with
  | error cause => simp
  | ok frame =>
      by_cases hidentifier : frame.identifier = request.identifier
      · cases hauthenticator : request.authenticator with
        | none => simp [hidentifier]
        | some authenticator =>
            by_cases hsigned : frame.isSignedResponse hash authenticator secret
            · simp [hidentifier, hsigned]
            · simp [hidentifier, hsigned]
      · simp [hidentifier]

end

/-- A request of another code than 4 is decoded alike under all secrets, but for its password. -/
theorem ofRequestDatagram_conceal {hash : Hash} {datagram : Bytes} (hcode : datagram.head? ≠ some 4)
    (secret other : Bytes) :
    (ofRequestDatagram hash datagram secret).map conceal =
      (ofRequestDatagram hash datagram other).map conceal := by
  unfold ofRequestDatagram
  cases hframe : Frame.ofBytes datagram with
  | error cause => rfl
  | ok frame =>
      have hne : frame.code ≠ Code.accountingRequest.toUInt8 := fun heq =>
        hcode ((Frame.head?_of_ofBytes hframe).trans (congrArg some heq))
      simp only [hne, false_and, if_false]
      exact ofReceived_conceal hash secret other frame.packet

/-- A fault of a request that is not a failed check of its signature is there under all secrets. -/
theorem ofRequestDatagram_fault {hash : Hash} {datagram secret : Bytes} {fault : PacketError}
    (h : ofRequestDatagram hash datagram secret = .error fault)
    (hfault : ∀ signed, fault ≠ .authenticatorMismatch signed) (other : Bytes) :
    ofRequestDatagram hash datagram other = .error fault := by
  rw [ofRequestDatagram_eq_error_iff] at h ⊢
  rcases h with hlayout | ⟨frame, hframe, ⟨-, -, rfl⟩ | ⟨hcode, hreceived⟩⟩
  · exact .inl hlayout
  · exact absurd rfl (hfault _)
  · have hconcealed := ofReceived_conceal hash secret other frame.packet
    rw [hreceived] at hconcealed
    exact .inr ⟨frame, hframe, .inr ⟨hcode, Except.map_eq_error_iff.mp hconcealed.symm⟩⟩

/-- A datagram that fails a check is a frame. -/
theorem exists_frame_of_isAuthenticationFailure {hash : Hash} {datagram secret : Bytes}
    {fault : PacketError} (hfault : fault.isAuthenticationFailure)
    (h : ofRequestDatagram hash datagram secret = .error fault ∨
      ∃ request, ofResponseDatagram hash datagram secret request = .error fault) :
    ∃ frame, Frame.ofBytes datagram = .ok frame := by
  cases hframe : Frame.ofBytes datagram with
  | ok frame => exact ⟨frame, rfl⟩
  | error cause =>
      have hcause : cause = fault := by
        rcases h with h | ⟨request, h⟩
        · simpa [ofRequestDatagram, hframe] using h
        · simpa [ofResponseDatagram, hframe] using h
      rw [← hcause] at hfault
      exact absurd hfault
        (PacketError.not_isAuthenticationFailure (Frame.isLayoutFault_of_ofBytes hframe))

/-- How a datagram is refused tells nothing of the secret but whether a signature is right. A
request fails alike under all secrets unless it fails the check of its signature; without a
signature it is decoded alike, but for the octets of a hidden password. A response with a fault of
layout has it under all secrets and for all requests. What fails a check of either decoder is a
frame. -/
theorem refusal_tells_no_secret (hash : Hash) (datagram : Bytes) :
    (∀ secret fault, ofRequestDatagram hash datagram secret = .error fault →
      (∀ signed, fault ≠ .authenticatorMismatch signed) →
      ∀ other, ofRequestDatagram hash datagram other = .error fault) ∧
    (datagram.head? ≠ some 4 → ∀ secret other,
      (ofRequestDatagram hash datagram secret).map conceal =
        (ofRequestDatagram hash datagram other).map conceal) ∧
    (∀ secret request fault, ofResponseDatagram hash datagram secret request = .error fault →
      fault.isLayoutFault →
      ∀ other asked, ofResponseDatagram hash datagram other asked = .error fault) ∧
    (∀ secret fault, fault.isAuthenticationFailure →
      (ofRequestDatagram hash datagram secret = .error fault ∨
        ∃ request, ofResponseDatagram hash datagram secret request = .error fault) →
      ∃ frame, Frame.ofBytes datagram = .ok frame) := by
  refine ⟨fun secret fault h hfault other => ofRequestDatagram_fault h hfault other,
    fun hcode secret other => ofRequestDatagram_conceal hcode secret other, ?_,
    fun secret fault hfault h => exists_frame_of_isAuthenticationFailure hfault h⟩
  intro secret request fault h hlayout other asked
  rcases ofResponseDatagram_eq_error_iff.mp h with
    hframe | ⟨frame, -, ⟨-, rfl⟩ | ⟨-, ⟨-, rfl⟩ | ⟨authenticator, -, -, rfl⟩⟩⟩
  · exact ofResponseDatagram_eq_error_iff.mpr (.inl hframe)
  -- The other faults are none of layout.
  · cases hlayout
  · cases hlayout
  · cases hlayout

/-- An Access-Request whose CHAP-Password has a single octet. -/
def Sample.shortAnswer : Bytes :=
  [0x01, 0x07, 0x00, 0x17] ++ (Octets.zero 16).bytes ++ [0x03, 0x03, 0x00]

theorem sample_refusal_tells_no_secret :
    ofRequestDatagram Md5.digest Sample.shortAnswer [] =
      .error (.malformedAttribute (.chapPasswordLength 1)) ∧
    (ofRequestDatagram Md5.digest Sample.requestDatagram []).map conceal =
      .ok (Message.access Sample.request).conceal ∧
    ofResponseDatagram Md5.digest (Sample.responseDatagram.take 30) [] (Packet.new .statusServer 9) =
      .error (.invalidLength 30) ∧
    ∃ frame, Frame.ofBytes Sample.accountingDatagram = .ok frame := by
  have hsecret := refusal_tells_no_secret Md5.digest
  have hshort : ofRequestDatagram Md5.digest Sample.shortAnswer Sample.secret =
      .error (.malformedAttribute (.chapPasswordLength 1)) := by decide +kernel
  have hrequest : ofRequestDatagram Md5.digest Sample.requestDatagram Sample.secret =
      .ok (.access Sample.request) := by decide +kernel
  have hcut : ofResponseDatagram Md5.digest (Sample.responseDatagram.take 30) Sample.secret
      Sample.request.packet = .error (.invalidLength 30) := by decide +kernel
  have hunsigned : ofRequestDatagram Md5.digest Sample.accountingDatagram [] =
      .error (.authenticatorMismatch .accountingRequest) := by decide +kernel
  refine ⟨(hsecret _).1 Sample.secret _ hshort (fun _ h => by cases h) [], ?_,
    (hsecret _).2.2.1 Sample.secret _ _ hcut rfl [] _,
    (hsecret _).2.2.2 [] _ rfl (.inl hunsigned)⟩
  rw [(hsecret Sample.requestDatagram).2.1 (by decide) [] Sample.secret, hrequest]
  rfl

end Message
end Radius
