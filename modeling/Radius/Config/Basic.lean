-- SUMMARY: Configurations of an endpoint: their settings, the secret of an address, and what makes them valid.
import Radius.Config.Client
import Radius.Dictionary.Builtin
import Radius.Dictionary.Load

/-!
# Configurations

A configuration says where an endpoint listens, whom it trusts and whom it knows. It
can be read without making sense; `validate` finds the first setting that does not,
in the order of the settings.

Without clients every address shares the one secret of the configuration. As soon as
there is a client, that secret plays no part: an address has the secret of the client
it belongs to, or none.
-/

namespace Radius

/-- A user with the attributes that an acceptance carries, in the order of their names. -/
structure Account where
  userName : String
  password : String
  attributes : List (String × String)
deriving DecidableEq, Repr

structure Config where
  listenAddress : String
  listenPort : UInt16
  secret : String
  clients : List Client
  users : List Account
  logLevel : Option String
  /-- How many seconds a request is remembered. -/
  dedupSeconds : UInt64
  /-- The path of a dictionary; none for the built-in one. -/
  dictionaryPath : Option String
deriving DecidableEq, Repr

namespace Config

/-- The configuration that says nothing. -/
def default : Config where
  listenAddress := "0.0.0.0"
  listenPort := 1812
  secret := "testing123"
  clients := []
  users := []
  logLevel := none
  dedupSeconds := 30
  dictionaryPath := none

/-- A configuration to start from. -/
def sample : Config where
  listenAddress := "0.0.0.0"
  listenPort := 1812
  secret := "testing123"
  clients := [
    ⟨"192.168.1.0/24", "client_secret_1", some "Internal Network", true⟩,
    ⟨"127.0.0.1", "testing123", some "Localhost", true⟩]
  users := [
    ⟨"admin", "admin123", [("Service-Type", "Framed-User"), ("Session-Timeout", "3600")]⟩,
    ⟨"user1", "password1", []⟩]
  logLevel := some "info"
  dedupSeconds := 30
  dictionaryPath := none

/-! ## What the settings mean -/

/-- Where the endpoint listens. -/
def endpoint (config : Config) : Except ConfigError Endpoint :=
  match Ip.parse? config.listenAddress with
  | some ip => .ok ⟨ip, config.listenPort⟩
  | none    => .error (.invalid (.listenAddress config.listenAddress))

/-- The client that an address belongs to. -/
def clientOf? (config : Config) (ip : Ip) (read : NetworkReader := Network.parse?) :
    Option Client :=
  config.clients.find? (·.serves ip read)

/-- The secret shared with an address; none for an address that belongs to nobody. -/
def secretOf? (config : Config) (ip : Ip) (read : NetworkReader := Network.parse?) :
    Option Bytes :=
  if config.clients.isEmpty then some (Utf8.encode config.secret)
  else (config.clientOf? ip read).map (fun client => Utf8.encode client.secret)

/-- The dictionary that a configuration asks for, with the remarks on its lines. -/
def loadDictionary (config : Config) (source : Source) : Except ConfigError Loading :=
  match config.dictionaryPath with
  | none => .ok Loading.builtin
  | some path =>
      match Dictionary.empty.load source path with
      | .ok loading  => .ok loading
      | .error fault => .error (.dictionary fault)

/-! ## Validity -/

/-- A client needs a secret and an address that writes a network. -/
def checkClient (client : Client) (read : NetworkReader := Network.parse?) :
    Except ConfigError Unit :=
  if client.secret = "" then .error (.invalid (.clientSecretEmpty client.address))
  else (client.network read).map (fun _ => ())

/-- A user needs a name. -/
def checkAccount (account : Account) : Except ConfigError Unit :=
  if account.userName = "" then .error (.invalid .userNameEmpty) else .ok ()

/-- Find the first setting that makes no sense. -/
def validate (config : Config) (read : NetworkReader := Network.parse?) :
    Except ConfigError Unit := do
  let _ ← config.endpoint
  if config.listenPort = 0 then .error (.invalid .portZero)
  else if config.secret = "" then .error (.invalid .secretEmpty)
  else if config.dedupSeconds = 0 then .error (.invalid .timeoutZero)
  else do
    config.clients.forM (checkClient · read)
    config.users.forM checkAccount

end Config
end Radius
