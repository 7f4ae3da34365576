-- SUMMARY: An address has the secret of the first enabled client whose network contains it, whatever else the list of clients holds.
import Mathlib.Logic.Relation
import Radius.Proofs.Address.Network
import Radius.Proofs.Outcome
import Radius.Server.Basic

/-!
# The client of an address

Where there are clients, an address has the secret of the first one that is enabled and whose
address writes a network with this address in it, and no secret if there is none. A client that
cannot be read as a network is passed by like one of another network.

So nothing that is done to disabled clients is noticed by any address. Nor is it noticed when a
client changes places with clients whose networks have no address in common with its own,
because whichever of them an address belongs to, it belongs to no other of them.

All of this holds for every reader of networks.
-/

namespace Radius

namespace Client

variable (read : NetworkReader)

/-! ## Whom a client admits -/

/-- The network that the address of a client writes, with its bits or as an address alone. -/
def network? (client : Client) : Option Network :=
  (read client.address).or ((Ip.parse? client.address).map Network.ofIp)

/-- The address of a client writes a network that covers an address. -/
def Covers (client : Client) (ip : Ip) : Prop :=
  ∃ network, client.network? read = some network ∧ network.Covers ip

/-- An address may belong to an enabled client. -/
def Admits (client : Client) (ip : Ip) : Prop := client.enabled = true ∧ client.Covers read ip

section

variable {read} {client : Client} {ip : Ip}

theorem network_eq_ok_iff {network : Network} :
    client.network read = .ok network ↔ client.network? read = some network := by
  unfold Client.network network?
  cases read client.address with
  | some found => simp
  | none =>
      cases Ip.parse? client.address with
      | some ip => simp
      | none => simp

theorem covers_eq_ok_true_iff : client.covers ip read = .ok true ↔ client.Covers read ip := by
  simp only [covers, Except.map_eq_ok_iff, network_eq_ok_iff, Covers, Network.contains_iff]

theorem serves_iff : client.serves ip read ↔ client.Admits read ip := by
  rw [Admits, ← covers_eq_ok_true_iff, serves]
  cases client.covers ip read with
  | error fault => simp
  | ok covered => simp

theorem serves_of_disabled (h : client.enabled = false) (ip : Ip) :
    client.serves ip read = false := by
  rw [← Bool.not_eq_true, serves_iff]
  rintro ⟨henabled, -⟩
  exact absurd (henabled.symm.trans h) (by decide)

end

/-! ## Changes that no address notices -/

/-- No address is in the networks of both clients. -/
def Apart (client other : Client) : Prop := ∀ ip, client.Covers read ip → ¬ other.Covers read ip

/-- A client that is disabled may move past any others, and an enabled one past those whose networks
have no address in common with its own. -/
def Passes (client : Client) (passed : List Client) : Prop :=
  client.enabled = false ∨ ∀ other ∈ passed, client.Apart read other

/-- One change to a list of clients: a disabled client comes, goes or is edited, or a client moves
past others, back or ahead. -/
inductive Edit : (clients edited : List Client) → Prop
  | insert (before after : List Client) {client : Client} : client.enabled = false →
      Edit (before ++ after) (before ++ client :: after)
  | remove (before after : List Client) {client : Client} : client.enabled = false →
      Edit (before ++ client :: after) (before ++ after)
  | replace (before after : List Client) {client other : Client} : client.enabled = false →
      other.enabled = false → Edit (before ++ client :: after) (before ++ other :: after)
  | moveBack (before after : List Client) {client : Client} {passed : List Client} :
      client.Passes read passed →
      Edit (before ++ client :: (passed ++ after)) (before ++ (passed ++ client :: after))
  | moveAhead (before after : List Client) {client : Client} {passed : List Client} :
      client.Passes read passed →
      Edit (before ++ (passed ++ client :: after)) (before ++ client :: (passed ++ after))

/-- Any number of changes, one after the other. -/
abbrev Edits : (clients edited : List Client) → Prop := Relation.ReflTransGen (Edit read)

section

variable {read} (ip : Ip)

/-- A disabled client is never the one that is found. -/
theorem find?_append_disabled (before after : List Client) {client : Client}
    (h : client.enabled = false) :
    (before ++ client :: after).find? (·.serves ip read) =
      (before ++ after).find? (·.serves ip read) := by
  rw [List.find?_append, List.find?_append, List.find?_cons, serves_of_disabled h]

/-- Moved past others, a client is found just when it was. -/
theorem find?_of_passes {client : Client} {passed : List Client} (h : client.Passes read passed)
    (after : List Client) :
    (client :: (passed ++ after)).find? (·.serves ip read) =
      (passed ++ client :: after).find? (·.serves ip read) := by
  rw [List.find?_cons, List.find?_append, List.find?_append, List.find?_cons]
  cases hserves : client.serves ip read with
  | false => rfl
  | true =>
      obtain ⟨henabled, hcovers⟩ := serves_iff.mp hserves
      have hapart := h.resolve_left (by simp [henabled])
      -- The address belongs to none of those that are passed.
      have hnone : passed.find? (·.serves ip read) = none :=
        List.find?_eq_none.mpr fun other hother hother' =>
          hapart other hother ip hcovers (serves_iff.mp hother').2
      simp only [hnone, Option.none_or]

theorem find?_of_edit {clients edited : List Client} (h : Edit read clients edited) :
    edited.find? (·.serves ip read) = clients.find? (·.serves ip read) := by
  cases h with
  | insert before after hdisabled => exact find?_append_disabled ip before after hdisabled
  | remove before after hdisabled => exact (find?_append_disabled ip before after hdisabled).symm
  | replace before after hdisabled hother =>
      rw [find?_append_disabled ip before after hdisabled,
        find?_append_disabled ip before after hother]
  | moveBack before after hpasses =>
      rw [before.find?_append, before.find?_append, find?_of_passes ip hpasses]
  | moveAhead before after hpasses =>
      rw [before.find?_append, before.find?_append, find?_of_passes ip hpasses]

theorem find?_of_edits {clients edited : List Client} (h : Edits read clients edited) :
    edited.find? (·.serves ip read) = clients.find? (·.serves ip read) := by
  induction h with
  | refl => rfl
  | tail _ hedit ih => rw [find?_of_edit ip hedit, ih]

end

end Client

/-! ## The secret of an address -/

namespace Config

section

variable {read : NetworkReader} {config : Config} (h : config.clients ≠ [])
include h

theorem secretOf?_of_ne_nil (ip : Ip) :
    config.secretOf? ip read =
      (config.clients.find? (·.serves ip read)).map (fun client => Utf8.encode client.secret) := by
  rw [secretOf?, if_neg (by simpa using h), clientOf?]

theorem secretOf?_eq_some_iff {ip : Ip} {secret : Bytes} :
    config.secretOf? ip read = some secret ↔ ∃ before client after,
      config.clients = before ++ client :: after ∧ client.Admits read ip ∧
      (∀ other ∈ before, ¬ other.Admits read ip) ∧ secret = Utf8.encode client.secret := by
  rw [secretOf?_of_ne_nil h, Option.map_eq_some_iff]
  constructor
  · rintro ⟨client, hfound, rfl⟩
    obtain ⟨hserves, before, after, hclients, hbefore⟩ := List.find?_eq_some_iff_append.mp hfound
    refine ⟨before, client, after, hclients, Client.serves_iff.mp hserves, ?_, rfl⟩
    intro other hother hadmits
    have hnot := hbefore other hother
    rw [Client.serves_iff.mpr hadmits] at hnot
    cases hnot
  · rintro ⟨before, client, after, hclients, hadmits, hbefore, rfl⟩
    refine ⟨client, List.find?_eq_some_iff_append.mpr
      ⟨Client.serves_iff.mpr hadmits, before, after, hclients, ?_⟩, rfl⟩
    intro other hother
    have hnot := mt Client.serves_iff.mp (hbefore other hother)
    simpa using hnot

theorem isSome_secretOf?_iff {ip : Ip} :
    (config.secretOf? ip read).isSome ↔ ∃ client ∈ config.clients, client.Admits read ip := by
  rw [secretOf?_of_ne_nil h, Option.isSome_map, List.find?_isSome]
  simp only [Client.serves_iff]

end

/-- The first client decides, whatever reads the networks. Where there are clients, an address has a
secret exactly if its bits put it into the network of an enabled client, and then that of the first
such client, whatever the secret of the configuration. Neither any change to disabled clients nor a
move of a client past others whose networks have no address of its own changes the secret of any
address, in however many steps, as long as there are clients in the end. A server that is set up has
no other secrets. -/
theorem first_client_decides (read : NetworkReader) {config : Config} (h : config.clients ≠ [])
    (ip : Ip) :
    ((config.secretOf? ip read).isSome ↔ ∃ client ∈ config.clients, client.Admits read ip) ∧
    (∀ secret, config.secretOf? ip read = some secret ↔ ∃ before client after,
      config.clients = before ++ client :: after ∧ client.Admits read ip ∧
      (∀ other ∈ before, ¬ other.Admits read ip) ∧ secret = Utf8.encode client.secret) ∧
    (∀ edited : Config, edited.clients ≠ [] → Client.Edits read config.clients edited.clients →
      edited.secretOf? ip read = config.secretOf? ip read) ∧
    (∀ secret : String,
      { config with secret := secret }.secretOf? ip read = config.secretOf? ip read) ∧
    ∀ source users server remarks,
      Server.ofConfig config source users read = .ok (server, remarks) →
      server.secretOf? ip = config.secretOf? ip read := by
  refine ⟨isSome_secretOf?_iff h, fun secret => secretOf?_eq_some_iff h, ?_, ?_, ?_⟩
  · intro edited hedited hedits
    rw [secretOf?_of_ne_nil hedited, secretOf?_of_ne_nil h, Client.find?_of_edits ip hedits]
  · intro secret
    have hsame : { config with secret := secret }.clients ≠ [] := h
    rw [secretOf?_of_ne_nil hsame, secretOf?_of_ne_nil h]
  · intro source users server remarks hserver
    obtain ⟨endpoint, -, hserver⟩ := Except.bind_eq_ok_iff.mp hserver
    obtain ⟨loading, -, ⟨⟩⟩ := Except.bind_eq_ok_iff.mp hserver
    rfl

/-! ## A sample list

A disabled client and one that writes no network stand before a network that lies within the one
behind it, and all have the prefix of an address of the other family behind them. -/

namespace Sample

def off : Client := ⟨"10.0.0.0/8", "off", none, false⟩
def unreadable : Client := ⟨"10.0.0.0/33", "unreadable", none, true⟩
def inner : Client := ⟨"10.1.0.0/16", "inner", none, true⟩
def outer : Client := ⟨"10.0.0.0/255.0.0.0", "outer", none, true⟩
def six : Client := ⟨"2001:db8::/32", "six", none, true⟩

def guarded : Config := { default with clients := [off, unreadable, inner, outer, six] }

/-- Without the disabled client, and with the IPv6 network in front of the IPv4 networks. -/
def edited : Config := { default with clients := [unreadable, six, inner, outer] }

def address : Ip := .v4 ⟨⟨[10, 1, 2, 3], rfl⟩⟩

/-- No address is of both families. -/
theorem six_apart {client : Client} {network : Ipv4} {bits : Nat}
    (h : client.network? Network.parse? = some (.v4 network bits)) :
    six.Apart Network.parse? client := by
  have hsix : ∃ network bits, six.network? Network.parse? = some (.v6 network bits) :=
    ⟨⟨⟨[0x20, 1, 0x0d, 0xb8, 0, 0, 0, 0, 0, 0, 0, 0, 0, 0, 0, 0], rfl⟩⟩, 32, by decide +kernel⟩
  rintro ip ⟨own, hown, hcovers⟩ ⟨other, hother, hcovers'⟩
  obtain ⟨network, bits, hnetwork⟩ := hsix
  rw [hnetwork, Option.some.injEq] at hown
  rw [h, Option.some.injEq] at hother
  subst hown hother
  cases ip with
  | v4 address => exact hcovers
  | v6 address => exact hcovers'

theorem edits : Client.Edits Network.parse? guarded.clients edited.clients := by
  have hinner : inner.network? Network.parse? = some (.v4 ⟨⟨[10, 1, 0, 0], rfl⟩⟩ 16) := by
    decide +kernel
  have houter : outer.network? Network.parse? = some (.v4 ⟨⟨[10, 0, 0, 0], rfl⟩⟩ 8) := by
    decide +kernel
  have hpasses : six.Passes Network.parse? [inner, outer] :=
    .inr (List.forall_mem_cons.mpr
      ⟨six_apart hinner, List.forall_mem_singleton.mpr (six_apart houter)⟩)
  have hremove : Client.Edit Network.parse? guarded.clients [unreadable, inner, outer, six] :=
    .remove [] _ rfl
  have hmove : Client.Edit Network.parse? [unreadable, inner, outer, six] edited.clients :=
    .moveAhead [unreadable] [] hpasses
  exact .tail (.single hremove) hmove

end Sample

theorem sample_first_client_decides :
    Sample.guarded.secretOf? Sample.address = some (Utf8.encode "inner") ∧
      Sample.edited.secretOf? Sample.address = some (Utf8.encode "inner") := by
  have hclients : Sample.guarded.clients ≠ [] := List.cons_ne_nil _ _
  obtain ⟨-, hsecret, hedited, -⟩ := first_client_decides Network.parse? hclients Sample.address
  have hinner : Sample.inner.Admits Network.parse? Sample.address :=
    Client.serves_iff.mp (by decide +kernel)
  have hfirst : ∀ other ∈ [Sample.off, Sample.unreadable],
      ¬ other.Admits Network.parse? Sample.address := by
    have hnone : ∀ other ∈ [Sample.off, Sample.unreadable], ¬ other.serves Sample.address := by
      decide +kernel
    exact fun other hother hadmits => hnone other hother (Client.serves_iff.mpr hadmits)
  have hfound := (hsecret _).mpr ⟨[Sample.off, Sample.unreadable], Sample.inner,
    [Sample.outer, Sample.six], rfl, hinner, hfirst, rfl⟩
  exact ⟨hfound, (hedited Sample.edited (by decide) Sample.edits).trans hfound⟩

end Config
end Radius
