-- SUMMARY: Decoding requests and responses from datagrams by indices, slices and copies comes to what decoding comes to, and is never trapped.
import Radius.Proofs.Raw.Datagram
import Radius.Proofs.Raw.Password

/-!
# Messages by slices

The slices that are signed are taken of a frame, not of a datagram: they are there because only a
datagram whose length was checked gives a frame. The credentials of an Access-Request are checked
for their lengths where they are read.
-/

namespace Radius.Raw

variable (hash : Hash) (secret : Bytes)

/-- Recover the credentials that a packet carries. -/
def credentials (packet : Packet) : Raw PacketError AccessRequest :=
  match packet.authenticator with
  | none => .failed .missingAuthenticator
  | some authenticator =>
      match packet.attribute? AttributeType.userPassword,
          packet.attribute? AttributeType.chapPassword with
      | some hidden, _ => do
          let password ← reveal hash secret authenticator hidden.value
          return { AccessRequest.ofPacket packet with password := some password }
      | none, some answer => do
          let challenge :=
            match packet.attribute? AttributeType.chapChallenge with
            | some given => given.value
            | none       => authenticator.bytes
          let answer ← ofExcept (ChapAnswer.ofValue challenge answer.value)
          return { AccessRequest.ofPacket packet with protocol := .chap, chap := some answer }
      | none, none => return AccessRequest.ofPacket packet

theorem credentials_eq (packet : Packet) :
    credentials hash secret packet = ofExcept (AccessRequest.ofReceived hash secret packet) := by
  unfold credentials AccessRequest.ofReceived
  cases packet.authenticator with
  | none => rfl
  | some authenticator =>
      cases packet.attribute? AttributeType.userPassword with
      | some hidden =>
          dsimp only
          rw [reveal_eq]
          exact ofExcept_map _ _
      | none =>
          cases packet.attribute? AttributeType.chapPassword with
          | some answer => exact ofExcept_map _ _
          | none => rfl

/-- The message of a packet off the wire. -/
def received (packet : Packet) : Raw PacketError Message :=
  match Message.ofPacket packet with
  | .access request => do return .access (← credentials hash secret request.packet)
  | message         => .done message

theorem received_eq (packet : Packet) :
    received hash secret packet = ofExcept (Message.ofReceived hash secret packet) := by
  unfold received Message.ofReceived
  cases Message.ofPacket packet with
  | access request =>
      dsimp only
      rw [credentials_eq]
      exact ofExcept_map _ _
  | accounting | generic => rfl

/-- Decode a request. -/
def requestDatagram (datagram : Bytes) : Raw PacketError Message := do
  let frame ← frame datagram
  if frame.code = Code.accountingRequest.toUInt8 then
    let expected := Authenticator.accounting hash (← header frame) (← attributeBytes frame) secret
    if ¬ Authenticator.agrees expected frame.authenticator.bytes then
      .failed (.authenticatorMismatch .accountingRequest)
    else received hash secret frame.packet
  else received hash secret frame.packet

/-- Decode a response to a request. -/
def responseDatagram (datagram : Bytes) (request : Packet) : Raw PacketError Message := do
  let frame ← frame datagram
  if frame.identifier ≠ request.identifier then
    .failed (.identifierMismatch request.identifier frame.identifier)
  else
    match request.authenticator with
    | none => .failed .missingAuthenticator
    | some authenticator =>
        let expected := Authenticator.response hash (← header frame) authenticator
          (← attributeBytes frame) secret
        if Authenticator.agrees expected frame.authenticator.bytes then
          return Message.ofPacket frame.packet
        else .failed (.authenticatorMismatch .response)

theorem requestDatagram_eq (datagram : Bytes) :
    requestDatagram hash secret datagram =
      ofExcept (Message.ofRequestDatagram hash datagram secret) := by
  rw [requestDatagram, frame_eq, Message.ofRequestDatagram]
  cases hframe : Frame.ofBytes datagram with
  | error fault => rfl
  | ok taken =>
      obtain ⟨hheader, hattributes⟩ := slices_of_frame hframe
      have hsigned : Authenticator.agrees (Authenticator.accounting hash taken.header
          taken.attributeBytes secret) taken.authenticator.bytes =
            taken.isSignedAccounting hash secret := rfl
      simp only [ofExcept_ok, done_bind, hheader, hattributes, received_eq, hsigned]
      by_cases hcode : taken.code = Code.accountingRequest.toUInt8
      · rw [if_pos hcode]
        by_cases hverdict : taken.isSignedAccounting hash secret
        · rw [if_neg (not_not_intro hverdict), if_neg (fun h => h.2 hverdict)]
        · rw [if_pos hverdict, if_pos ⟨hcode, hverdict⟩]
          rfl
      · rw [if_neg hcode, if_neg (fun h => hcode h.1)]

theorem responseDatagram_eq (datagram : Bytes) (request : Packet) :
    responseDatagram hash secret datagram request =
      ofExcept (Message.ofResponseDatagram hash datagram secret request) := by
  rw [responseDatagram, frame_eq, Message.ofResponseDatagram]
  cases hframe : Frame.ofBytes datagram with
  | error fault => rfl
  | ok taken =>
      obtain ⟨hheader, hattributes⟩ := slices_of_frame hframe
      simp only [ofExcept_ok, done_bind, hheader, hattributes]
      split
      · rfl
      cases request.authenticator with
      | none => rfl
      | some authenticator =>
          have hsigned : Authenticator.agrees (Authenticator.response hash taken.header authenticator
              taken.attributeBytes secret) taken.authenticator.bytes =
                taken.isSignedResponse hash authenticator secret := rfl
          dsimp only
          rw [hsigned]
          cases taken.isSignedResponse hash authenticator secret <;> rfl

end Radius.Raw
