-- SUMMARY: IPv4 and IPv6 addresses, and the host and port a datagram comes from.
import Radius.Bytes

/-!
# Internet addresses

An address is its octets on the wire. Sixteen octets of IPv6 are also eight groups
of sixteen bits, the form in which they are written. The sender of a datagram is more
than an address and a port: with IPv6 there is also a flow, and a scope, without which
one address may be that of several hosts.
-/

namespace Radius

structure Ipv4 where
  octets : Octets 4
deriving DecidableEq, Repr, Inhabited

structure Ipv6 where
  octets : Octets 16
deriving DecidableEq, Repr, Inhabited

/-- An address of either family. -/
inductive Ip where
  | v4 (address : Ipv4)
  | v6 (address : Ipv6)
deriving DecidableEq, Repr, Inhabited

/-- An address with all that tells one host from another. -/
inductive Host where
  | v4 (address : Ipv4)
  | v6 (address : Ipv6) (flow scope : UInt32)
deriving DecidableEq, Repr, Inhabited

/-- The host that an address alone stands for, of no flow and no scope. -/
def Ip.host : Ip → Host
  | .v4 address => .v4 address
  | .v6 address => .v6 address 0 0

instance : Coe Ip Host := ⟨Ip.host⟩

def Host.ip : Host → Ip
  | .v4 address     => .v4 address
  | .v6 address _ _ => .v6 address

/-- Where a datagram comes from: a host and a port. -/
structure Endpoint where
  host : Host
  port : UInt16
deriving DecidableEq, Repr, Inhabited

def Endpoint.ip (endpoint : Endpoint) : Ip := endpoint.host.ip

namespace Ipv6

/-- The octets of eight groups. -/
def ofGroups (groups : List Nat) : Ipv6 :=
  ⟨Octets.ofPrefix 16 (groups.flatMap (Bytes.ofNat 2))⟩

private def pairUp : Bytes → List Nat
  | high :: low :: rest => (high.toNat * 256 + low.toNat) :: pairUp rest
  | _                   => []

/-- The eight groups of sixteen bits. -/
def groups (address : Ipv6) : List Nat := pairUp address.octets.bytes

/-! ## Groups and octets -/

private theorem ofNat_pair (high low : UInt8) :
    Bytes.ofNat 2 (high.toNat * 256 + low.toNat) = [high, low] := by
  have hhigh : (high.toNat * 256 + low.toNat) / 256 = high.toNat := by
    have := low.toNat_lt
    omega
  have hlow : (high.toNat * 256 + low.toNat) % 256 = low.toNat := by
    have := low.toNat_lt
    omega
  simp [Bytes.ofNat, hhigh, hlow]

private theorem flatMap_pairUp : (bytes : Bytes) → bytes.length % 2 = 0 →
    (pairUp bytes).flatMap (Bytes.ofNat 2) = bytes
  | [],                  _ => rfl
  | [_],                 h => nomatch h
  | high :: low :: rest, h => by
      have hrest : rest.length % 2 = 0 := by
        rw [List.length_cons, List.length_cons] at h
        omega
      rw [pairUp, List.flatMap_cons, ofNat_pair, flatMap_pairUp rest hrest]
      rfl

private theorem length_pairUp : (bytes : Bytes) → (pairUp bytes).length = bytes.length / 2
  | []             => rfl
  | [_]            => by simp [pairUp]
  | _ :: _ :: rest => by
      rw [pairUp, List.length_cons, length_pairUp rest, List.length_cons, List.length_cons]
      omega

private theorem lt_of_mem_pairUp : (bytes : Bytes) → ∀ group ∈ pairUp bytes, group < 65536
  | [],                  _, h => nomatch h
  | [_],                 _, h => nomatch h
  | high :: low :: rest, group, h => by
      rw [pairUp, List.mem_cons] at h
      rcases h with rfl | h
      · have := high.toNat_lt
        have := low.toNat_lt
        omega
      · exact lt_of_mem_pairUp rest group h

@[simp] theorem length_groups (address : Ipv6) : address.groups.length = 8 := by
  rw [groups, length_pairUp, address.octets.length_bytes]

theorem lt_of_mem_groups {address : Ipv6} {group : Nat} (h : group ∈ address.groups) :
    group < 65536 := lt_of_mem_pairUp _ group h

/-- The octets are those that the groups write. -/
theorem ofGroups_groups (address : Ipv6) : ofGroups address.groups = address := by
  have hbytes : address.groups.flatMap (Bytes.ofNat 2) = address.octets.bytes :=
    flatMap_pairUp _ (by rw [address.octets.length_bytes])
  have hoctets : Octets.ofPrefix 16 address.octets.bytes = address.octets := by
    ext1
    simp [Octets.ofPrefix, Bytes.padTo, List.take_of_length_le]
  rw [ofGroups, hbytes, hoctets]

end Ipv6
end Radius
