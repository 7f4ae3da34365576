-- SUMMARY: Decoding received datagrams as requests and as responses, with the checks against the shared secret.
import Radius.Packet.Message

/-!
# Received datagrams

The length octets say where a packet ends, and octets after that end are ignored. An
Accounting-Request is accepted only with the authenticator that the shared secret
gives it; an Access-Request gets its credentials recovered. A response is checked
against the request it answers, first its identifier and then its authenticator.
-/

namespace Radius

/-- A datagram taken apart. -/
structure Frame where
  code : UInt8
  identifier : UInt8
  authenticator : Block
  attributes : List PacketAttribute
  /-- The octets up to the declared length. -/
  bytes : Bytes
deriving DecidableEq, Repr

namespace Frame

/-- The length that the third and fourth octet declare. -/
def declaredLength (datagram : Bytes) : Nat := (datagram.slice 2 4).toNat

/-- Take a datagram apart. -/
def ofBytes (datagram : Bytes) : Except PacketError Frame :=
  match datagram with
  | code :: identifier :: _ =>
      let length := declaredLength datagram
      if datagram.length < packetHeaderLength then .error (.invalidLength datagram.length)
      else if length < packetHeaderLength ∨ Packet.maxLength < length then
        .error (.invalidLength length)
      else if datagram.length < length then .error (.invalidLength datagram.length)
      else
        let bytes := datagram.take length
        (decodeAttributes (bytes.drop packetHeaderLength)).map (fun attributes =>
          ⟨code, identifier, Octets.ofPrefix 16 (bytes.drop 4), attributes, bytes⟩)
  | short => .error (.invalidLength short.length)

def header (frame : Frame) : Bytes := frame.bytes.take 4

def attributeBytes (frame : Frame) : Bytes := frame.bytes.drop packetHeaderLength

def packet (frame : Frame) : Packet :=
  ⟨Code.ofUInt8 frame.code, frame.identifier, some frame.authenticator, frame.attributes⟩

/-- Whether the authenticator is that of an Accounting-Request. -/
def isSignedAccounting (hash : Hash) (frame : Frame) (secret : Bytes) : Bool :=
  Authenticator.agrees (Authenticator.accounting hash frame.header frame.attributeBytes secret)
    frame.authenticator.bytes

/-- Whether the authenticator is that of a response to the request with this one. -/
def isSignedResponse (hash : Hash) (frame : Frame) (request : Block) (secret : Bytes) : Bool :=
  Authenticator.agrees (Authenticator.response hash frame.header request frame.attributeBytes secret)
    frame.authenticator.bytes

end Frame

namespace Message

/-- The message of a packet off the wire, with the credentials it carries. -/
def ofReceived (hash : Hash) (secret : Bytes) (packet : Packet) : Except PacketError Message :=
  match ofPacket packet with
  | .access request => (AccessRequest.ofReceived hash secret request.packet).map .access
  | message         => .ok message

/-- Decode a request. -/
def ofRequestDatagram (hash : Hash) (datagram secret : Bytes) : Except PacketError Message :=
  match Frame.ofBytes datagram with
  | .error fault => .error fault
  | .ok frame =>
      if frame.code = Code.accountingRequest.toUInt8 ∧ ¬ frame.isSignedAccounting hash secret then
        .error (.authenticatorMismatch .accountingRequest)
      else ofReceived hash secret frame.packet

/-- Decode a response to a request. -/
def ofResponseDatagram (hash : Hash) (datagram secret : Bytes) (request : Packet) :
    Except PacketError Message :=
  match Frame.ofBytes datagram with
  | .error fault => .error fault
  | .ok frame =>
      if frame.identifier ≠ request.identifier then
        .error (.identifierMismatch request.identifier frame.identifier)
      else
        match request.authenticator with
        | none => .error .missingAuthenticator
        | some authenticator =>
            if frame.isSignedResponse hash authenticator secret then .ok (ofPacket frame.packet)
            else .error (.authenticatorMismatch .response)

end Message
end Radius
