-- SUMMARY: Packet authenticators: the digests that sign responses and Accounting-Requests, and their checks.
import Radius.Bytes

/-!
# Authenticators

A response is signed by the digest of its header, the authenticator of the request
it answers, its attributes and the shared secret. An Accounting-Request is signed
the same way with sixteen zero octets in the place of a request authenticator. A
receiver computes the digest again and compares all sixteen octets.
-/

namespace Radius

/-- Octets of code, identifier, length and authenticator. -/
def packetHeaderLength : Nat := 20

namespace Authenticator

/-- The byte string that is signed. -/
def signedMessage (header : Bytes) (authenticator : Block) (attributes secret : Bytes) : Bytes :=
  header ++ authenticator.bytes ++ attributes ++ secret

/-- The authenticator of a response to the request with `request` as its authenticator. -/
def response (hash : Hash) (header : Bytes) (request : Block) (attributes secret : Bytes) : Block :=
  hash (signedMessage header request attributes secret)

/-- The authenticator of an Accounting-Request. -/
def accounting (hash : Hash) (header attributes secret : Bytes) : Block :=
  hash (signedMessage header (Octets.zero 16) attributes secret)

/-- Whether the received octets are the expected block. The differences of all octets are
collected before the verdict, so the work does not depend on where they are. -/
def agrees (expected : Block) (received : Bytes) : Bool :=
  received.length == expected.bytes.length &&
    (Bytes.xor expected.bytes received).foldl (· ||| ·) 0 == 0

/-- Whether an encoded response is signed for a request authenticator. -/
def verifyResponse (hash : Hash) (packet : Bytes) (request : Block) (secret : Bytes) : Bool :=
  if packet.length < packetHeaderLength then false
  else
    agrees (response hash (packet.take 4) request (packet.drop packetHeaderLength) secret)
      (packet.slice 4 packetHeaderLength)

/-- Whether an encoded Accounting-Request is signed. -/
def verifyAccounting (hash : Hash) (packet secret : Bytes) : Bool :=
  if packet.length < packetHeaderLength then false
  else
    agrees (accounting hash (packet.take 4) (packet.drop packetHeaderLength) secret)
      (packet.slice 4 packetHeaderLength)

end Authenticator
end Radius
