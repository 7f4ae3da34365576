-- SUMMARY: Why a configuration cannot be read or used.
import Radius.Dictionary.Error

/-!
# Configuration errors

A configuration fails because a file cannot be read or written, because its text is
not what it should be, because the dictionary it names cannot be read, or because a
setting makes no sense.
-/

namespace Radius

/-- A setting that makes no sense. -/
inductive ConfigFault where
  | listenAddress (address : String)
  | portZero
  | secretEmpty
  | timeoutZero
  | clientSecretEmpty (address : String)
  | clientAddress (address : String)
  | userNameEmpty
deriving DecidableEq, Repr

def ConfigFault.message : ConfigFault → String
  | .listenAddress address     => s!"Invalid IP address: {address}"
  | .portZero                  => "Port cannot be 0"
  | .secretEmpty               => "Secret cannot be empty"
  | .timeoutZero               => "Dedup timeout must be at least 1 second"
  | .clientSecretEmpty address => s!"Client {address} has empty secret"
  | .clientAddress address     => s!"Invalid client address: {address}"
  | .userNameEmpty             => "User has empty username"

inductive ConfigError where
  | io (error : StorageError)
  /-- Text that is no JSON, or JSON of another shape. -/
  | malformed
  | dictionary (error : DictionaryError)
  | invalid (fault : ConfigFault)
deriving DecidableEq, Repr

namespace ConfigError

def message : ConfigError → String
  | .io error         => s!"IO error: {error.message}"
  | .malformed        => "Parse error"
  | .dictionary error => s!"Dictionary error: {error.message}"
  | .invalid fault    => s!"Invalid configuration: {fault.message}"

/-- Whether the file of the configuration does not exist. -/
def isNotFound : ConfigError → Bool
  | .io error => error.isNotFound
  | _         => false

end ConfigError
end Radius
