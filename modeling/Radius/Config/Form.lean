-- SUMMARY: The JSON form of configurations, and configurations in files.
import Radius.Config.Basic
import Radius.Json.Printer
import Radius.Json.Reader
import Radius.Storage.FileTree

/-!
# The JSON form of a configuration

A configuration is a record, and so are its clients and users. A field with a default
may be left out; only a setting that may be absent may be null. The attributes of a
user are an object of texts, where the last value of a name counts. A port and a
number of seconds are written as digits alone and have to fit.
-/

namespace Radius

namespace Json

/-- A number written as digits alone, up to `bound`. -/
def nat? (bound : Nat) : Json → Option Nat
  | .number literal => (Decimal.parse bound literal).toOption
  | _               => none

def ofNat (n : Nat) : Json := .number (String.ofList (Nat.toDigits 10 n))

def ofText (value : String) : Json := .string (some value)

def ofNullable : Option String → Json
  | some value => ofText value
  | none       => .null

/-- An object with these members. -/
def ofMembers (members : List (String × Json)) : Json :=
  .object (members.map (fun member => (some member.1, member.2)))

end Json

/-! ## Clients -/

namespace Client

def fieldNames : List String := ["address", "secret", "name", "enabled"]

def ofJson? (json : Json) : Option Client := do
  let fields ← json.fields? fieldNames
  return {
    address := ← fields.required "address" Json.text?
    secret := ← fields.required "secret" Json.text?
    name := ← fields.withDefault "name" none Json.nullableText?
    enabled := ← fields.withDefault "enabled" true Json.bool? }

def toJson (client : Client) : Json :=
  Json.ofMembers [
    ("address", Json.ofText client.address),
    ("secret", Json.ofText client.secret),
    ("name", Json.ofNullable client.name),
    ("enabled", .bool client.enabled)]

end Client

/-! ## Users -/

namespace Account

def fieldNames : List String := ["username", "password", "attributes"]

/-- Put an entry at its place in the order of names, in the place of one with the same name. -/
def putInOrder (name value : String) : List (String × String) → List (String × String)
  | [] => [(name, value)]
  | entry :: later =>
      if name < entry.1 then (name, value) :: entry :: later
      else if name = entry.1 then (name, value) :: later
      else entry :: putInOrder name value later

/-- Enter the members of an object of texts. -/
def collectAttributes :
    List (Option String × Json) → List (String × String) → Option (List (String × String))
  | [], entries => some entries
  | (some name, .string (some value)) :: later, entries =>
      collectAttributes later (putInOrder name value entries)
  | _ :: _, _ => none

def attributesOfJson? : Json → Option (List (String × String))
  | .object members => collectAttributes members []
  | _               => none

def ofJson? (json : Json) : Option Account := do
  let fields ← json.fields? fieldNames
  return {
    userName := ← fields.required "username" Json.text?
    password := ← fields.required "password" Json.text?
    attributes := ← fields.withDefault "attributes" [] attributesOfJson? }

def toJson (account : Account) : Json :=
  Json.ofMembers [
    ("username", Json.ofText account.userName),
    ("password", Json.ofText account.password),
    ("attributes", Json.ofMembers (account.attributes.map (fun entry =>
      (entry.1, Json.ofText entry.2))))]

end Account

/-! ## Configurations -/

namespace Config

def fieldNames : List String :=
  ["listen_address", "listen_port", "secret", "clients", "users", "log_level",
    "dedup_timeout_secs", "dictionary_path"]

/-- Read every value of an array. -/
def listOfJson? {α : Type} (read : Json → Option α) (json : Json) : Option (List α) :=
  json.array?.bind (·.mapM read)

def ofJson? (json : Json) : Option Config := do
  let fields ← json.fields? fieldNames
  return {
    listenAddress := ← fields.withDefault "listen_address" default.listenAddress Json.text?
    listenPort := ← fields.withDefault "listen_port" default.listenPort
      (fun value => (value.nat? 0xFFFF).map UInt16.ofNat)
    secret := ← fields.withDefault "secret" default.secret Json.text?
    clients := ← fields.withDefault "clients" [] (listOfJson? Client.ofJson?)
    users := ← fields.withDefault "users" [] (listOfJson? Account.ofJson?)
    logLevel := ← fields.withDefault "log_level" none Json.nullableText?
    dedupSeconds := ← fields.withDefault "dedup_timeout_secs" default.dedupSeconds
      (fun value => (value.nat? 0xFFFFFFFFFFFFFFFF).map UInt64.ofNat)
    dictionaryPath := ← fields.withDefault "dictionary_path" none Json.nullableText? }

def toJson (config : Config) : Json :=
  Json.ofMembers [
    ("listen_address", Json.ofText config.listenAddress),
    ("listen_port", Json.ofNat config.listenPort.toNat),
    ("secret", Json.ofText config.secret),
    ("clients", .array (config.clients.map Client.toJson)),
    ("users", .array (config.users.map Account.toJson)),
    ("log_level", Json.ofNullable config.logLevel),
    ("dedup_timeout_secs", Json.ofNat config.dedupSeconds.toNat),
    ("dictionary_path", Json.ofNullable config.dictionaryPath)]

/-- The text of a configuration. -/
def toText (config : Config) : String := config.toJson.toText

/-- The configuration that a text writes, valid or not. -/
def ofText (text : String) : Except ConfigError Config :=
  match (Json.parse? text).bind ofJson? with
  | some config => .ok config
  | none        => .error .malformed

/-- The valid configuration in a file. -/
def load (tree : FileTree) (path : String) (read : NetworkReader := Network.parse?) :
    Except ConfigError Config :=
  match tree.readText path with
  | .error fault => .error (.io fault)
  | .ok text => do
      let config ← ofText text
      config.validate read
      return config

/-- Write a configuration into a file. -/
def save (config : Config) (tree : FileTree) (path : String) : Except ConfigError FileTree :=
  match tree.write path (Utf8.encode config.toText) with
  | .ok tree     => .ok tree
  | .error fault => .error (.io fault)

end Config
end Radius
