-- SUMMARY: Why a packet cannot be encoded, decoded or trusted, and the wording of each cause.
import Radius.Text.Utf8

/-!
# Packet errors

Each constructor is one cause, with the facts its message names. An error is an
authentication failure when the packet was well formed and only the check against
the shared secret, or against the request it answers, failed.
-/

namespace Radius

/-- What is wrong with the layout of an attribute. -/
inductive Malformed where
  /-- Too few octets for a type and a length. -/
  | headerCut (available : Nat)
  /-- A length that does not cover the type and length octets themselves. -/
  | lengthTooSmall (length : Nat)
  /-- A length that runs past the data. -/
  | valueCut (type : UInt8) (length available : Nat)
  /-- A Vendor-Specific value without room for the vendor. -/
  | vendorCut (available : Nat)
  | chapPasswordEmpty
  | chapPasswordLength (length : Nat)
deriving DecidableEq, Repr

def Malformed.message : Malformed → String
  | .headerCut available   => s!"Attribute data too short: {available} bytes"
  | .lengthTooSmall length => s!"Invalid attribute length: {length}"
  | .valueCut type length available =>
      s!"Insufficient data for attribute {type.toNat}: expected {length}, got {available}"
  | .vendorCut available       => s!"Vendor-Specific attribute too short: {available} bytes"
  | .chapPasswordEmpty         => "CHAP-Password is empty"
  | .chapPasswordLength length => s!"CHAP-Password must be 17 bytes, got {length}"

/-- Why octets or a text are no value of a kind. -/
inductive InvalidValue where
  | notUtf8 (error : Utf8.Error)
  /-- Octets of the wrong number for what they should be. -/
  | wrongLength (expected : Nat) (what : String) (length : Nat)
  /-- Octets that cannot hold an IPv6 prefix. -/
  | prefixBytes (length : Nat)
  /-- More significant bits than an IPv6 address has. -/
  | prefixBits (bits : Nat)
  /-- A text that does not write what it should. -/
  | unreadable (what text : String)
  /-- A value given as a whole to an attribute that holds sub-attributes. -/
  | container (name : String)
deriving DecidableEq, Repr

def InvalidValue.message : InvalidValue → String
  | .notUtf8 error => s!"Invalid UTF-8 string: {error.message}"
  | .wrongLength expected what length => s!"Expected {expected} bytes for {what}, got {length}"
  | .prefixBytes length => s!"Invalid IPv6 prefix length: {length} bytes"
  | .prefixBits bits => s!"IPv6 prefix length {bits} exceeds 128"
  | .unreadable what text => s!"Invalid {what}: {text}"
  | .container name => s!"{name} must be built from vendor sub-attributes"

/-- The kinds of packet whose authenticator a receiver checks. -/
inductive Signed where
  | accountingRequest
  | response
deriving DecidableEq, Repr

def Signed.name : Signed → String
  | .accountingRequest => "Accounting-Request"
  | .response          => "response"

inductive PacketError where
  | invalidLength (length : Nat)
  | packetTooLong (length : Nat)
  | attributeTooLong (type : UInt8) (length : Nat)
  | malformedAttribute (fault : Malformed)
  | invalidValue (fault : InvalidValue)
  | unknownAttribute (name : String)
  | missingAuthenticator
  | passwordTooLong (length : Nat)
  /-- A hidden password whose length no password hides as. -/
  | invalidPassword (length : Nat)
  | identifierMismatch (request response : UInt8)
  | authenticatorMismatch (packet : Signed)
deriving DecidableEq, Repr

namespace PacketError

def message : PacketError → String
  | .invalidLength length => s!"Invalid packet length: {length}"
  | .packetTooLong length => s!"Packet too long: {length} bytes (maximum is 4096)"
  | .attributeTooLong type length =>
      s!"Attribute {type.toNat} too long: {length} bytes (maximum is 255)"
  | .malformedAttribute fault => s!"Malformed attribute: {fault.message}"
  | .invalidValue fault => s!"Invalid attribute value: {fault.message}"
  | .unknownAttribute name => s!"Unknown attribute: {name}"
  | .missingAuthenticator => "Packet has no authenticator"
  | .passwordTooLong length => s!"User-Password too long: {length} bytes (maximum is 128)"
  | .invalidPassword length =>
      s!"Invalid User-Password: Invalid encrypted password length: {length}"
  | .identifierMismatch request response =>
      s!"Response identifier {response.toNat} does not match request identifier {request.toNat}"
  | .authenticatorMismatch packet => s!"Authenticator mismatch in {packet.name}"

/-- Whether the packet was well formed and only failed to prove where it comes from. -/
def isAuthenticationFailure : PacketError → Bool
  | .identifierMismatch ..   => true
  | .authenticatorMismatch _ => true
  | _                        => false

end PacketError
end Radius
