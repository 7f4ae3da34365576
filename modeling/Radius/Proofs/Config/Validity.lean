-- SUMMARY: A valid configuration gives an endpoint, answers for every client, and a server unless its dictionary cannot be read.
import Radius.Config.Form
import Radius.Proofs.Config.Clients
import Radius.Proofs.Dictionary.Expansion
import Radius.Proofs.Text.Utf8

/-!
# Valid configurations

Validation goes through all settings, those of disabled clients as well, and succeeds if each
one makes sense. What uses a configuration later relies on it: the endpoint is there, every
client answers whether it covers an address, and no secret is empty. Only the dictionary is not
looked at before it is loaded, so that is all that setting a server up can still fail for.

Validation and what comes later read networks alike, and which reader they use is left open.
-/

namespace Radius

namespace Config

section

variable {read : NetworkReader}

/-! ## Checks -/

theorem checkClient_eq_ok_iff {client : Client} :
    checkClient client read = .ok () ↔
      client.secret ≠ "" ∧ ∃ network, client.network read = .ok network := by
  unfold checkClient
  split
  · rename_i hempty
    simp [hempty]
  · rename_i hsecret
    simp [hsecret]

theorem checkAccount_eq_ok_iff {account : Account} :
    checkAccount account = .ok () ↔ account.userName ≠ "" := by
  unfold checkAccount
  split <;> simp_all

/-- A configuration in which all settings make sense. -/
structure Valid (read : NetworkReader) (config : Config) : Prop where
  listens : ∃ ip, Ip.parse? config.listenAddress = some ip
  port_ne_zero : config.listenPort ≠ 0
  secret_ne_empty : config.secret ≠ ""
  remembers : config.dedupSeconds ≠ 0
  clients : ∀ client ∈ config.clients,
    client.secret ≠ "" ∧ ∃ network, client.network read = .ok network
  users : ∀ account ∈ config.users, account.userName ≠ ""

theorem endpoint_eq_ok_iff {config : Config} {endpoint : Endpoint} :
    config.endpoint = .ok endpoint ↔
      ∃ ip, Ip.parse? config.listenAddress = some ip ∧ endpoint = ⟨ip, config.listenPort⟩ := by
  unfold Config.endpoint
  cases Ip.parse? config.listenAddress with
  | none => simp
  | some ip => simp [eq_comm]

theorem validate_eq_ok_iff {config : Config} :
    config.validate read = .ok () ↔ config.Valid read := by
  have hvalidate : config.validate read = config.endpoint.bind (fun _ =>
      if config.listenPort = 0 then .error (.invalid .portZero)
      else if config.secret = "" then .error (.invalid .secretEmpty)
      else if config.dedupSeconds = 0 then .error (.invalid .timeoutZero)
      else (config.clients.forM (checkClient · read)).bind
        (fun _ => config.users.forM checkAccount)) := rfl
  rw [hvalidate, Except.bind_eq_ok_iff]
  constructor
  · rintro ⟨endpoint, hendpoint, h⟩
    split at h
    · cases h
    rename_i hport
    split at h
    · cases h
    rename_i hsecret
    split at h
    · cases h
    rename_i hseconds
    obtain ⟨_, hclients, husers⟩ := Except.bind_eq_ok_iff.mp h
    obtain ⟨ip, hip, -⟩ := endpoint_eq_ok_iff.mp hendpoint
    exact {
      listens := ⟨ip, hip⟩
      port_ne_zero := hport
      secret_ne_empty := hsecret
      remembers := hseconds
      clients := fun client hclient =>
        checkClient_eq_ok_iff.mp (Except.forM_eq_ok_iff.mp hclients client hclient)
      users := fun account haccount =>
        checkAccount_eq_ok_iff.mp (Except.forM_eq_ok_iff.mp husers account haccount) }
  · intro h
    obtain ⟨ip, hip⟩ := h.listens
    refine ⟨⟨ip, config.listenPort⟩, endpoint_eq_ok_iff.mpr ⟨ip, hip, rfl⟩, ?_⟩
    rw [if_neg h.port_ne_zero, if_neg h.secret_ne_empty, if_neg h.remembers]
    refine Except.bind_eq_ok_iff.mpr ⟨(), Except.forM_eq_ok_iff.mpr fun client hclient => ?_,
      Except.forM_eq_ok_iff.mpr fun account haccount => ?_⟩
    · exact checkClient_eq_ok_iff.mpr (h.clients client hclient)
    · exact checkAccount_eq_ok_iff.mpr (h.users account haccount)

/-- What is loaded from a file is valid. -/
theorem validate_of_load {tree : FileTree} {path : String} {config : Config}
    (h : load tree path read = .ok config) : config.validate read = .ok () := by
  unfold load at h
  split at h
  · cases h
  · obtain ⟨given, -, h⟩ := Except.bind_eq_ok_iff.mp h
    obtain ⟨_, hvalid, ⟨⟩⟩ := Except.bind_eq_ok_iff.mp h
    exact hvalid

/-! ## What is relied on -/

/-- A text is written in octets, unless there is nothing to write. -/
theorem encode_ne_nil {text : String} (h : text ≠ "") : Utf8.encode text ≠ [] := by
  intro hempty
  have hchars := Utf8.lossyChars_encode text
  rw [hempty, Utf8.lossyChars, eq_comm, String.toList_eq_nil_iff] at hchars
  exact h hchars

namespace Valid

variable {config : Config} (h : config.Valid read)
include h

/-- Every client answers, and an enabled one is taken at its word. -/
theorem exists_covers_eq_ok {client : Client} (hclient : client ∈ config.clients) (ip : Ip) :
    ∃ covered, client.covers ip read = .ok covered ∧
      client.serves ip read = (client.enabled && covered) := by
  obtain ⟨-, network, hnetwork⟩ := h.clients client hclient
  have hcovers : client.covers ip read = .ok (network.contains ip) := by
    rw [Client.covers, hnetwork]
    rfl
  exact ⟨network.contains ip, hcovers, by rw [Client.serves, hcovers]⟩

theorem secretOf?_ne_nil {ip : Ip} {secret : Bytes}
    (hsecret : config.secretOf? ip read = some secret) : secret ≠ [] := by
  unfold secretOf? at hsecret
  split at hsecret
  · cases hsecret
    exact encode_ne_nil h.secret_ne_empty
  · obtain ⟨client, hclient, rfl⟩ := Option.map_eq_some_iff.mp hsecret
    exact encode_ne_nil (h.clients client (List.mem_of_find?_eq_some hclient)).1

/-- Only the dictionary can keep a server from being set up. -/
theorem ofConfig_eq_error_iff {source : Source} {users : Users} {fault : ConfigError} :
    Server.ofConfig config source users read = .error fault ↔
      ∃ path cause, config.dictionaryPath = some path ∧ source.read path = .error cause ∧
        fault = .dictionary (.unreadable path cause) := by
  obtain ⟨ip, hip⟩ := h.listens
  have hendpoint : config.endpoint = .ok ⟨ip, config.listenPort⟩ :=
    endpoint_eq_ok_iff.mpr ⟨ip, hip, rfl⟩
  have hserver : Server.ofConfig config source users read = .error fault ↔
      config.loadDictionary source = .error fault := by
    unfold Server.ofConfig
    rw [hendpoint]
    cases config.loadDictionary source with
    | error cause => simp [bind, Except.bind]
    | ok loading => simp [bind, Except.bind, pure, Except.pure]
  rw [hserver, loadDictionary]
  cases config.dictionaryPath with
  | none => simp
  | some path =>
      simp only [Option.some.injEq, exists_and_left, exists_eq_left']
      cases hload : Dictionary.empty.load source path with
      | error cause =>
          obtain ⟨why, hread, rfl⟩ := Loading.readTo_eq_error_iff.mp hload
          simp [hread, eq_comm]
      | ok loading =>
          obtain ⟨bytes, hread⟩ := Loading.exists_readTo_eq_ok_iff.mp ⟨loading, hload⟩
          simp [hread]

end Valid

end

/-- A valid configuration can be relied on, and a file gives no other, whatever reads the networks.
Its endpoint is there, with a port. Every client, enabled or not, answers whether it covers an
address, and none is passed by for another reason than that it is disabled or answers no. No address
has an empty secret. Setting up a server fails exactly if a dictionary is named and that resource
cannot be read, whatever it includes. -/
theorem valid_can_be_relied_on (read : NetworkReader) :
    (∀ tree path config, load tree path read = .ok config → config.validate read = .ok ()) ∧
    ∀ config, config.validate read = .ok () →
      (∃ endpoint, config.endpoint = .ok endpoint ∧ endpoint.port ≠ 0) ∧
      (∀ client ∈ config.clients, ∀ ip, ∃ covered,
        client.covers ip read = .ok covered ∧
          client.serves ip read = (client.enabled && covered)) ∧
      (∀ ip secret, config.secretOf? ip read = some secret → secret ≠ []) ∧
      ∀ source users fault, Server.ofConfig config source users read = .error fault ↔
        ∃ path cause, config.dictionaryPath = some path ∧ source.read path = .error cause ∧
          fault = .dictionary (.unreadable path cause) := by
  refine ⟨fun tree path config hload => validate_of_load hload, fun config hvalidate => ?_⟩
  have hvalid := validate_eq_ok_iff.mp hvalidate
  obtain ⟨ip, hip⟩ := hvalid.listens
  refine ⟨⟨⟨ip, config.listenPort⟩, endpoint_eq_ok_iff.mpr ⟨ip, hip, rfl⟩, hvalid.port_ne_zero⟩,
    ?_, ?_, ?_⟩
  · exact fun client hclient ip => hvalid.exists_covers_eq_ok hclient ip
  · exact fun ip secret hsecret => hvalid.secretOf?_ne_nil hsecret
  · exact fun source users fault => hvalid.ofConfig_eq_error_iff

/-! ## A sample configuration

Its client is disabled, and its dictionary is not there. -/

namespace Sample

def text : String :=
  r#"{"clients": [{"address": "::1", "secret": "s", "enabled": false}], "dictionary_path": "none"}"#

def tree : FileTree := (FileTree.new []).addFile ["config"] (Utf8.encode text)

def read : Config :=
  { default with clients := [⟨"::1", "s", none, false⟩], dictionaryPath := some "none" }

end Sample

theorem sample_can_be_relied_on :
    Sample.read.validate = .ok () ∧
      (∃ endpoint, Sample.read.endpoint = .ok endpoint ∧ endpoint.port ≠ 0) ∧
      (∃ covered, (Client.mk "::1" "s" none false).covers Sample.address = .ok covered) ∧
      Server.ofConfig Sample.read Sample.tree.source Table.empty =
        .error (.dictionary (.unreadable "none" .notFound)) := by
  have hload : load Sample.tree "config" = .ok Sample.read := by decide +kernel
  have hmissing : Sample.tree.source.read "none" = .error .notFound := by decide +kernel
  obtain ⟨hvalid, hrelied⟩ := valid_can_be_relied_on Network.parse?
  have hread := hvalid Sample.tree "config" Sample.read hload
  obtain ⟨hendpoint, hclients, -, hserver⟩ := hrelied Sample.read hread
  obtain ⟨covered, hcovers, -⟩ := hclients _ (List.mem_singleton.mpr rfl) Sample.address
  exact ⟨hread, hendpoint, ⟨covered, hcovers⟩,
    (hserver _ _ _).mpr ⟨"none", .notFound, rfl, hmissing, rfl⟩⟩

end Config
end Radius
