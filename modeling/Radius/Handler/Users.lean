-- SUMMARY: Answering requests from a table of users: accept or reject by password, acknowledge accounting.
import Radius.Address.Basic
import Radius.Handler.Basic

/-!
# A table of users

An Access-Request is accepted when its User-Name is in the table and its credentials
are those of the user's password, and rejected otherwise; a request whose User-Name
is missing or is not text cannot be answered. Accounting-Requests are acknowledged,
and other packets get no response.
-/

namespace Radius

structure User where
  password : String
  /-- Names and values of the attributes that an acceptance carries. -/
  reply : List (String × String)
deriving DecidableEq, Repr

/-- Users by name. -/
abbrev Users := Table String User

/-- A remark on a request. -/
inductive HandlerWarning where
  | authenticationFailed (userName : String) (remote : Endpoint) (identifier : UInt8)
      (protocol : AuthProtocol)
  | replySkipped (userName name : String) (error : PacketError)
deriving DecidableEq, Repr

def HandlerWarning.message : HandlerWarning → String
  | .authenticationFailed .. => "Authentication failed"
  | .replySkipped ..         => "Skipping reply attribute"

namespace Users

/-- Add a user without reply attributes, in the place of one with the same name. -/
def addUser (users : Users) (name password : String) : Users := users.insert name ⟨password, []⟩

/-- Add a reply attribute to a user, and say whether there is such a user. -/
def addReply (users : Users) (userName name value : String) : Users × Bool :=
  (users.modify userName (fun user => { user with reply := user.reply ++ [(name, value)] }),
    users.contains userName)

/-- The user that a request proves to be. -/
def authenticated? (hash : Hash) (users : Users) (request : AccessRequest) (userName : String) :
    Option User :=
  (users.find? userName).filter (fun user =>
    request.verifyPassword hash (Utf8.encode user.password))

/-- The rejection of a request. -/
def rejection (request : Packet) : Packet :=
  (request.responseTo .accessReject).addAttribute
    (Attribute.ofText AttributeType.replyMessage "Authentication failed")

/-- Add reply attributes one after the other; those that fail are skipped. -/
def addReplies (dictionary : Dictionary) (userName : String) :
    List (String × String) → Packet → Packet × List HandlerWarning
  | [], response => (response, [])
  | (name, value) :: later, response =>
      match response.addNamed dictionary name value with
      | .ok extended => addReplies dictionary userName later extended
      | .error fault =>
          let (response, warnings) := addReplies dictionary userName later response
          (response, .replySkipped userName name fault :: warnings)

def handleAccess (hash : Hash) (dictionary : Dictionary) (users : Users) (remote : Endpoint)
    (request : AccessRequest) : Handled × List HandlerWarning :=
  match request.packet.userName? with
  | none => (.error (.missingAttribute "User-Name"), [])
  | some userName =>
      match users.authenticated? hash request userName with
      | none =>
          (.ok (some (.ofPacket (rejection request.packet))),
            [.authenticationFailed userName remote request.packet.identifier request.protocol])
      | some user =>
          let (response, warnings) :=
            addReplies dictionary userName user.reply (request.packet.responseTo .accessAccept)
          (.ok (some (.ofPacket response)), warnings)

/-- Handle a request. -/
def handle (hash : Hash) (dictionary : Dictionary) (users : Users) (remote : Endpoint) :
    Message → Handled × List HandlerWarning
  | .access request    => handleAccess hash dictionary users remote request
  | .accounting packet => (.ok (some (.ofPacket (packet.responseTo .accountingResponse))), [])
  | .generic _         => (.ok none, [])

end Users
end Radius
