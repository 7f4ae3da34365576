-- SUMMARY: Clients: which addresses they cover, and which client an address belongs to.
import Radius.Address.Network
import Radius.Config.Error

/-!
# Clients

A client is an address or a network with a secret of its own. An address belongs to
the first enabled client whose network contains it. A client whose address is no
network covers nothing.

How networks are written is a matter of the reader that is used for them. The program
uses `Network.parse?`; nothing else here depends on which reader it is.
-/

namespace Radius

/-- A reader of networks: the network that a text writes, if it writes one. -/
abbrev NetworkReader := String → Option Network

structure Client where
  /-- An address or a network, as it is written. -/
  address : String
  secret : String
  name : Option String
  enabled : Bool
deriving DecidableEq, Repr

namespace Client

/-- The network that the address of a client writes, for the reader or as an address alone. -/
def network (client : Client) (read : NetworkReader := Network.parse?) :
    Except ConfigError Network :=
  match read client.address with
  | some network => .ok network
  | none =>
      match Ip.parse? client.address with
      | some ip => .ok (.ofIp ip)
      | none    => .error (.invalid (.clientAddress client.address))

/-- Whether the network of a client contains an address. -/
def covers (client : Client) (ip : Ip) (read : NetworkReader := Network.parse?) :
    Except ConfigError Bool :=
  (client.network read).map (·.contains ip)

/-- Whether a client is enabled and covers an address. -/
def serves (client : Client) (ip : Ip) (read : NetworkReader := Network.parse?) : Bool :=
  match client.covers ip read with
  | .ok covered => client.enabled && covered
  | .error _    => false

end Client
end Radius
