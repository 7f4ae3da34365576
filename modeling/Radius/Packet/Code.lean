-- SUMMARY: Packet codes and their names.

/-!
# Packet codes

The first octet of a packet says what it is. Fourteen codes have a name; every other
value is carried as it is, so that each octet has exactly one code.
-/

namespace Radius

inductive Code where
  | accessRequest
  | accessAccept
  | accessReject
  | accountingRequest
  | accountingResponse
  | accessChallenge
  | statusServer
  | statusClient
  | disconnectRequest
  | disconnectAck
  | disconnectNak
  | coaRequest
  | coaAck
  | coaNak
  | other (value : UInt8)
deriving DecidableEq, Repr, Inhabited

namespace Code

def ofUInt8 : UInt8 → Code
  | 1  => .accessRequest
  | 2  => .accessAccept
  | 3  => .accessReject
  | 4  => .accountingRequest
  | 5  => .accountingResponse
  | 11 => .accessChallenge
  | 12 => .statusServer
  | 13 => .statusClient
  | 40 => .disconnectRequest
  | 41 => .disconnectAck
  | 42 => .disconnectNak
  | 43 => .coaRequest
  | 44 => .coaAck
  | 45 => .coaNak
  | value => .other value

def toUInt8 : Code → UInt8
  | .accessRequest      => 1
  | .accessAccept       => 2
  | .accessReject       => 3
  | .accountingRequest  => 4
  | .accountingResponse => 5
  | .accessChallenge    => 11
  | .statusServer       => 12
  | .statusClient       => 13
  | .disconnectRequest  => 40
  | .disconnectAck      => 41
  | .disconnectNak      => 42
  | .coaRequest         => 43
  | .coaAck             => 44
  | .coaNak             => 45
  | .other value        => value

def isNamed : Code → Bool
  | .other _ => false
  | _        => true

def name : Code → String
  | .accessRequest      => "Access-Request"
  | .accessAccept       => "Access-Accept"
  | .accessReject       => "Access-Reject"
  | .accountingRequest  => "Accounting-Request"
  | .accountingResponse => "Accounting-Response"
  | .accessChallenge    => "Access-Challenge"
  | .statusServer       => "Status-Server"
  | .statusClient       => "Status-Client"
  | .disconnectRequest  => "Disconnect-Request"
  | .disconnectAck      => "Disconnect-ACK"
  | .disconnectNak      => "Disconnect-NAK"
  | .coaRequest         => "CoA-Request"
  | .coaAck             => "CoA-ACK"
  | .coaNak             => "CoA-NAK"
  | .other value        => s!"Unknown-Packet-Type-{value.toNat}"

@[simp] theorem toUInt8_ofUInt8 (value : UInt8) : (ofUInt8 value).toUInt8 = value := by
  unfold ofUInt8
  split <;> rfl

end Code
end Radius
