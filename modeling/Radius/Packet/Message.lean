-- SUMMARY: Messages: packets told apart by the rules for encoding them as requests.
import Radius.Packet.Access
import Radius.Packet.Accounting

/-!
# Messages

The code of a packet decides how it is encoded as a request: an Access-Request carries
credentials, an Accounting-Request is signed, and every other packet only needs an
authenticator. As responses all packets are signed alike.
-/

namespace Radius

inductive Message where
  | access (request : AccessRequest)
  | accounting (packet : Packet)
  | generic (packet : Packet)
deriving DecidableEq, Repr

namespace Message

/-- The message that a packet is, without credentials. -/
def ofPacket (packet : Packet) : Message :=
  match packet.code with
  | .accessRequest     => .access (AccessRequest.ofPacket packet)
  | .accountingRequest => .accounting packet
  | _                  => .generic packet

/-- The message with this code and these parts. -/
def create (code identifier : UInt8) (authenticator : Option Block)
    (attributes : List PacketAttribute) : Message :=
  ofPacket ⟨Code.ofUInt8 code, identifier, authenticator, attributes⟩

def packet : Message → Packet
  | .access request    => request.packet
  | .accounting packet => packet
  | .generic packet    => packet

/-- The message with another packet in it; it stays the message it is. -/
def mapPacket (change : Packet → Packet) : Message → Message
  | .access request    => .access { request with packet := change request.packet }
  | .accounting packet => .accounting (change packet)
  | .generic packet    => .generic (change packet)

/-- The message ready to be sent as a request. -/
def encodeRequest (hash : Hash) (draws : Draws) (secret : Bytes) : Message → Except PacketError Message
  | .access request    => (request.encodeRequest hash draws secret).map .access
  | .accounting packet => (packet.signAccounting hash secret).map .accounting
  | .generic packet    => (packet.authenticate draws.authenticator).map .generic

/-- Whether `encodeRequest` puts drawn octets into the message. -/
def usesDraws : Message → Bool
  | .access request =>
      request.packet.authenticator.isNone ||
        (request.protocol = .chap && request.password.isSome)
  | .accounting _   => false
  | .generic packet => packet.authenticator.isNone

/-- The message signed as a response to the request with this authenticator. -/
def encodeResponse (hash : Hash) (message : Message) (secret : Bytes) (request : Block) :
    Except PacketError Message :=
  (message.packet.signResponse hash secret request).map .generic

/-- The octets of a message that has its authenticator. -/
def toDatagram (message : Message) : Except PacketError Bytes := message.packet.encode

end Message
end Radius
