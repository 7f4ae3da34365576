-- SUMMARY: The standard attribute types that the protocol itself relies on.

/-!
# Attribute types

Most types mean something to operators only. These few steer the protocol:
credentials, what a response copies, and the container for vendor attributes.
-/

namespace Radius.AttributeType

def userName : UInt8 := 1
/-- The password, hidden with the shared secret. -/
def userPassword : UInt8 := 2
/-- An identifier and a digest of sixteen octets. -/
def chapPassword : UInt8 := 3
def replyMessage : UInt8 := 18
/-- The container for the attributes of a vendor. -/
def vendorSpecific : UInt8 := 26
/-- State of a proxy, echoed unchanged in responses. -/
def proxyState : UInt8 := 33
def acctStatusType : UInt8 := 40
def chapChallenge : UInt8 := 60

end Radius.AttributeType
