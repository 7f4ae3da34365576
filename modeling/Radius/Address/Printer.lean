-- SUMMARY: The text of addresses and endpoints.
import Radius.Address.Basic

/-!
# Writing addresses

IPv4 is four decimal numbers with points between. IPv6 is eight lower-case
hexadecimal groups with colons between, where the first longest run of at least two
zero groups shrinks to `::`, except that an IPv4-mapped address ends in the IPv4
form. An IPv6 endpoint puts its address in brackets, with the scope behind a percent sign if
there is one; the flow is not written.
-/

namespace Radius

/-- Pieces of text with a separator between neighbours. -/
private def joinWith (separator : List Char) : List (List Char) → List Char
  | []            => []
  | [piece]       => piece
  | piece :: rest => piece ++ separator ++ joinWith separator rest

namespace Ipv4

def chars (address : Ipv4) : List Char :=
  joinWith ['.'] (address.octets.bytes.map (fun octet => Nat.toDigits 10 octet.toNat))

def toText (address : Ipv4) : String := String.ofList address.chars

end Ipv4

namespace Ipv6

/-- The first of the longest runs of zeros: the index where it starts, and its length. -/
def longestZeroRun : List Nat → Nat × Nat
  | []         => (0, 0)
  | group :: rest =>
      let here := ((group :: rest).takeWhile (· = 0)).length
      let later := longestZeroRun rest
      if later.2 ≤ here then (0, here) else (later.1 + 1, later.2)

def groupChars (groups : List Nat) : List Char :=
  joinWith [':'] (groups.map (Nat.toDigits 16))

/-- The IPv4 address that an IPv4-mapped address stands for. -/
def mapped? (address : Ipv6) : Option Ipv4 :=
  if address.groups.take 6 = [0, 0, 0, 0, 0, 0xFFFF] then
    some ⟨Octets.ofPrefix 4 (address.octets.bytes.drop 12)⟩
  else none

def chars (address : Ipv6) : List Char :=
  match address.mapped? with
  | some ipv4 => "::ffff:".toList ++ ipv4.chars
  | none =>
      let groups := address.groups
      let run := longestZeroRun groups
      if 1 < run.2 then
        groupChars (groups.take run.1) ++ "::".toList ++ groupChars (groups.drop (run.1 + run.2))
      else groupChars groups

def toText (address : Ipv6) : String := String.ofList address.chars

end Ipv6

def Ip.toText : Ip → String
  | .v4 address => address.toText
  | .v6 address => address.toText

def Endpoint.toText (endpoint : Endpoint) : String :=
  match endpoint.host with
  | .v4 address => s!"{address.toText}:{endpoint.port.toNat}"
  | .v6 address _ scope =>
      let zone := if scope = 0 then "" else s!"%{scope.toNat}"
      s!"[{address.toText}{zone}]:{endpoint.port.toNat}"

end Radius
