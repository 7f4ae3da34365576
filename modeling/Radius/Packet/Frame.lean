-- SUMMARY: Encoding a packet around an authenticator, and signing it as a response or as an Accounting-Request.
import Radius.Attribute.Wire
import Radius.Packet.Basic
import Radius.Secret.Authenticator

/-!
# Frames

A packet on the wire is its code, its identifier, its length in two octets, its
authenticator and its attributes. Encoding fails rather than shorten anything: the
whole may have 4096 octets and each attribute 255. What is signed is the frame
around zeros, less the zeros.
-/

namespace Radius.Packet

/-- The greatest length of a packet. -/
def maxLength : Nat := 4096

/-- The length of the packet on the wire. -/
def encodedLength (packet : Packet) : Nat :=
  packetHeaderLength + packet.attributes.foldr (fun attr length => attr.encodedLength + length) 0

/-- Code, identifier and length. -/
def header (packet : Packet) : Bytes :=
  packet.code.toUInt8 :: packet.identifier :: Bytes.ofNat 2 packet.encodedLength

/-- The octets of the packet with this authenticator. -/
def frame (packet : Packet) (authenticator : Block) : Except PacketError Bytes :=
  if maxLength < packet.encodedLength then .error (.packetTooLong packet.encodedLength)
  else
    match encodeEach PacketAttribute.encodeInto packet.attributes
        (packet.header ++ authenticator.bytes) with
    | (.ok (), buffer)  => .ok buffer
    | (.error fault, _) => .error fault

/-- The octets of a packet that has its authenticator. -/
def encode (packet : Packet) : Except PacketError Bytes :=
  match packet.authenticator with
  | none               => .error .missingAuthenticator
  | some authenticator => packet.frame authenticator

/-- The packet with an authenticator made from the header and the attributes it is sent with. -/
def sign (packet : Packet) (authenticate : (header attributes : Bytes) → Block) :
    Except PacketError Packet :=
  (packet.frame (Octets.zero 16)).map (fun bytes =>
    packet.withAuthenticator (authenticate (bytes.take 4) (bytes.drop packetHeaderLength)))

/-- The packet signed as a response to the request with this authenticator. -/
def signResponse (hash : Hash) (packet : Packet) (secret : Bytes) (request : Block) :
    Except PacketError Packet :=
  packet.sign (fun header attributes => Authenticator.response hash header request attributes secret)

/-- The packet signed as an Accounting-Request. -/
def signAccounting (hash : Hash) (packet : Packet) (secret : Bytes) : Except PacketError Packet :=
  packet.sign (fun header attributes => Authenticator.accounting hash header attributes secret)

/-- The packet with its authenticator, or with this one if it has none; it must fit a frame. -/
def authenticate (packet : Packet) (drawn : Block) : Except PacketError Packet :=
  let authenticator := packet.authenticator.getD drawn
  let packet := packet.withAuthenticator authenticator
  (packet.frame authenticator).map (fun _ => packet)

end Radius.Packet
