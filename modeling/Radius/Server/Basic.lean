-- SUMMARY: Servers: whom a server trusts, and what it makes of a datagram up to the handler and from the handler on.
import Radius.Config.Basic
import Radius.Dedup.Run
import Radius.Handler.Users
import Radius.Packet.Datagram

/-!
# Servers

A server answers datagrams. The address a datagram comes from decides on the secret,
and an address without one is a stranger, whose datagrams are dropped unread. With
the secret the datagram is decoded as a request, and the response that the handler
gives is signed for that request and sent back.
-/

namespace Radius

inductive ServerError where
  /-- A failure of the system underneath, in its own words. -/
  | io (reason : String)
  | packet (error : PacketError)
  | handler (error : HandlerError)
  | config (error : ConfigError)
  /-- A datagram from an address without a secret. -/
  | stranger
deriving DecidableEq, Repr

def ServerError.message : ServerError → String
  | .io reason     => s!"IO error: {reason}"
  | .packet error  => s!"Packet error: {error.message}"
  | .handler error => s!"Handler error: {error.message}"
  | .config error  => s!"Configuration error: {error.message}"
  | .stranger      => "Invalid client"

structure Server where
  /-- Where the server listens. -/
  endpoint : Endpoint
  dictionary : Dictionary
  users : Users
  /-- The secret shared with an address; none for a stranger. -/
  secretOf? : Ip → Option Bytes
  /-- How many seconds a request is remembered. -/
  dedupSeconds : Nat

/-! ## Setting up -/

/-- Add a user with its attributes. -/
def Users.addAccount (users : Users) (account : Account) : Users :=
  account.attributes.foldl (fun users entry => (users.addReply account.userName entry.1 entry.2).1)
    (users.addUser account.userName account.password)

/-- The users of a configuration. -/
def Users.ofAccounts (accounts : List Account) : Users := accounts.foldl addAccount Table.empty

namespace Server

/-- The server with one secret for every address. -/
def plain (endpoint : Endpoint) (secret : Bytes) (users : Users) : Server where
  endpoint := endpoint
  dictionary := Dictionary.builtin
  users := users
  secretOf? _ := some secret
  dedupSeconds := Deduplicator.defaultSeconds

/-- The server of a configuration, with the remarks on its dictionary. -/
def ofConfig (config : Config) (source : Source) (users : Users)
    (read : NetworkReader := Network.parse?) : Except ConfigError (Server × List LoadRemark) := do
  let endpoint ← config.endpoint
  let loading ← config.loadDictionary source
  return ({
    endpoint := endpoint
    dictionary := loading.dictionary
    users := users
    secretOf? := fun ip => config.secretOf? ip read
    dedupSeconds := config.dedupSeconds.toNat }, loading.remarks)

end Server

/-! ## Receiving and answering -/

/-- A request from an address with a secret. -/
structure Received where
  remote : Endpoint
  secret : Bytes
  request : Message
deriving DecidableEq, Repr

/-- What tells the request apart from others. -/
def Received.key (received : Received) : RequestKey :=
  ⟨received.remote, received.request.packet.identifier⟩

/-- What becomes of a datagram. -/
inductive Verdict where
  /-- These octets are sent back. -/
  | reply (datagram : Bytes)
  /-- An earlier datagram with the same key is remembered. -/
  | duplicate
  /-- The handler has no response. -/
  | unsupported
  | failed (error : ServerError)
deriving DecidableEq, Repr

/-- The datagram of a response, signed for the request with this packet. -/
def Message.sealFor (hash : Hash) (response : Message) (secret : Bytes) (request : Packet) :
    Except PacketError Bytes :=
  match request.authenticator with
  | none => .error .missingAuthenticator
  | some authenticator => (response.encodeResponse hash secret authenticator).bind toDatagram

namespace Server

/-- The part of a datagram that is read. -/
def readLength : Nat := Packet.maxLength

/-- Find the secret of the sender and decode the request. -/
def receive (hash : Hash) (server : Server) (remote : Endpoint) (datagram : Bytes) :
    Except ServerError Received :=
  match server.secretOf? remote.ip with
  | none => .error .stranger
  | some secret =>
      match Message.ofRequestDatagram hash (datagram.take readLength) secret with
      | .ok request  => .ok ⟨remote, secret, request⟩
      | .error fault => .error (.packet fault)

/-- Handle a request. -/
def handle (hash : Hash) (server : Server) (received : Received) : Handled × List HandlerWarning :=
  server.users.handle hash server.dictionary received.remote received.request

/-- Answer a request with what its handler came to. -/
def respond (hash : Hash) (received : Received) : Handled → Verdict
  | .error fault => .failed (.handler fault)
  | .ok none     => .unsupported
  | .ok (some response) =>
      match response.sealFor hash received.secret received.request.packet with
      | .ok datagram => .reply datagram
      | .error fault => .failed (.packet fault)

end Server
end Radius
