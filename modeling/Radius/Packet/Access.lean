-- SUMMARY: Access-Requests: hiding the password or answering a challenge when sent, recovering credentials when received, and checking a candidate.
import Radius.Packet.Frame
import Radius.Secret.Password

/-!
# Access-Requests

An Access-Request carries a password in one of two ways: hidden with the shared secret
(PAP), or as the digest that answers a challenge (CHAP). The password itself stays
beside the packet and goes into the attributes only when the request is encoded. The
random octets that encoding may need are given to it as `Draws`.
-/

namespace Radius

/-- How a request carries the password. -/
inductive AuthProtocol where
  | pap
  | chap
deriving DecidableEq, Repr, Inhabited

/-- The answer to a challenge. -/
structure ChapAnswer where
  identifier : UInt8
  response : Block
  challenge : Bytes
deriving DecidableEq, Repr

namespace ChapAnswer

/-- The answer that a CHAP-Password value gives to a challenge. -/
def ofValue (challenge : Bytes) : Bytes → Except PacketError ChapAnswer
  | [] => .error (.malformedAttribute .chapPasswordEmpty)
  | identifier :: response =>
      match Octets.ofBytes? 16 response with
      | some response => .ok ⟨identifier, response, challenge⟩
      | none => .error (.malformedAttribute (.chapPasswordLength (response.length + 1)))

/-- The CHAP-Password value. -/
def toValue (answer : ChapAnswer) : Bytes := answer.identifier :: answer.response.bytes

/-- Whether a password gives the same answer. -/
def accepts (hash : Hash) (answer : ChapAnswer) (candidate : Bytes) : Bool :=
  Authenticator.agrees (Password.chapResponse hash answer.identifier candidate answer.challenge)
    answer.response.bytes

end ChapAnswer

/-- The random octets that encoding a request may use. -/
structure Draws where
  authenticator : Block
  challenge : Block
  identifier : UInt8
deriving DecidableEq, Repr

structure AccessRequest where
  packet : Packet
  protocol : AuthProtocol
  /-- The password where it is known: in a request built here, or received hidden. -/
  password : Option Bytes
  chap : Option ChapAnswer
deriving DecidableEq, Repr

namespace AccessRequest

/-- A request of a user with a password. -/
def new (identifier : UInt8) (userName password : String) : AccessRequest where
  packet := (Packet.new .accessRequest identifier).addAttribute
    (Attribute.ofText AttributeType.userName userName)
  protocol := .pap
  password := some (Utf8.encode password)
  chap := none

/-- A request without credentials. -/
def ofPacket (packet : Packet) : AccessRequest := ⟨packet, .pap, none, none⟩

/-- Whether the credentials that the request carries are those of a password. -/
def verifyPassword (hash : Hash) (request : AccessRequest) (candidate : Bytes) : Bool :=
  match request.chap, request.password with
  | some answer, _            => answer.accepts hash candidate
  | none,        some password => password = candidate
  | none,        none          => false

/-! ## Sending -/

/-- The packet without the attributes that carry credentials. -/
def withoutCredentials (packet : Packet) : Packet :=
  ((packet.removeAttributes AttributeType.userPassword).removeAttributes
    AttributeType.chapPassword).removeAttributes AttributeType.chapChallenge

/-- The answer to the drawn challenge. -/
def drawnAnswer (hash : Hash) (draws : Draws) (password : Bytes) : ChapAnswer where
  identifier := draws.identifier
  response := Password.chapResponse hash draws.identifier password draws.challenge.bytes
  challenge := draws.challenge.bytes

/-- The request with the attributes that carry its password under this authenticator. -/
def placeCredentials (hash : Hash) (draws : Draws) (secret : Bytes) (authenticator : Block)
    (request : AccessRequest) : Except PacketError AccessRequest :=
  match request.password, request.protocol with
  | none, _ => .ok request
  | some password, .pap =>
      (Password.hide hash password secret authenticator).map (fun hidden =>
        { request with
          packet := (withoutCredentials request.packet).addAttribute
            (.standard AttributeType.userPassword hidden)
          chap := none })
  | some password, .chap =>
      let answer := drawnAnswer hash draws password
      .ok { request with
        packet := ((withoutCredentials request.packet).addAttribute
          (.standard AttributeType.chapPassword answer.toValue)).addAttribute
          (.standard AttributeType.chapChallenge answer.challenge)
        chap := some answer }

/-- The request ready to be sent: with an authenticator and its credentials in place. -/
def encodeRequest (hash : Hash) (draws : Draws) (secret : Bytes) (request : AccessRequest) :
    Except PacketError AccessRequest := do
  let authenticator := request.packet.authenticator.getD draws.authenticator
  let placed ← placeCredentials hash draws secret authenticator request
  let packet ← placed.packet.authenticate authenticator
  return { placed with packet }

/-! ## Receiving -/

/-- The request with the credentials that a packet off the wire carries. A hidden password counts
before an answer to a challenge, and without a challenge attribute the authenticator is the
challenge. -/
def ofReceived (hash : Hash) (secret : Bytes) (packet : Packet) :
    Except PacketError AccessRequest :=
  match packet.authenticator with
  | none => .error .missingAuthenticator
  | some authenticator =>
      match packet.attribute? AttributeType.userPassword,
          packet.attribute? AttributeType.chapPassword with
      | some hidden, _ =>
          (Password.reveal hash hidden.value secret authenticator).map (fun password =>
            { ofPacket packet with password := some password })
      | none, some answer =>
          let challenge :=
            match packet.attribute? AttributeType.chapChallenge with
            | some given => given.value
            | none       => authenticator.bytes
          (ChapAnswer.ofValue challenge answer.value).map (fun answer =>
            { ofPacket packet with protocol := .chap, chap := some answer })
      | none, none => .ok (ofPacket packet)

end AccessRequest
end Radius
