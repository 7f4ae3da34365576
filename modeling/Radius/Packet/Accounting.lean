-- SUMMARY: Accounting-Requests and the status they report.
import Radius.Packet.Basic

/-!
# Accounting-Requests

An Accounting-Request reports on a session; its status says whether the session
starts, goes on or ends.
-/

namespace Radius

inductive AcctStatus where
  | start
  | stop
  | interimUpdate
  | accountingOn
  | accountingOff
deriving DecidableEq, Repr

namespace AcctStatus

def ofUInt32? : UInt32 → Option AcctStatus
  | 1 => some .start
  | 2 => some .stop
  | 3 => some .interimUpdate
  | 7 => some .accountingOn
  | 8 => some .accountingOff
  | _ => none

def toUInt32 : AcctStatus → UInt32
  | .start         => 1
  | .stop          => 2
  | .interimUpdate => 3
  | .accountingOn  => 7
  | .accountingOff => 8

def name : AcctStatus → String
  | .start         => "Start"
  | .stop          => "Stop"
  | .interimUpdate => "InterimUpdate"
  | .accountingOn  => "AccountingOn"
  | .accountingOff => "AccountingOff"

end AcctStatus

namespace Packet

/-- A report on a session of a user. -/
def accountingRequest (identifier : UInt8) (userName : String) (status : AcctStatus) : Packet :=
  ((new .accountingRequest identifier).addAttribute
    (Attribute.ofText AttributeType.userName userName)).addAttribute
    (Attribute.ofInteger AttributeType.acctStatusType status.toUInt32)

/-- The status that a packet reports. -/
def acctStatus? (packet : Packet) : Option AcctStatus := do
  let attr ← packet.attribute? AttributeType.acctStatusType
  let value ← (Kind.decodeInteger attr.value).toOption
  AcctStatus.ofUInt32? value

end Packet
end Radius
