-- SUMMARY: Reading addresses and endpoints from text.
import Radius.Address.Basic
import Radius.Text.Decimal
import Radius.Text.Hex

/-!
# Reading addresses

IPv4 is exactly four decimal numbers up to 255 without leading zeros. IPv6 is up
to eight groups of one to four hexadecimal digits, with at most one `::` for one or
more zero groups, and an IPv4 address may stand for the last two groups. Each
reader takes what it needs from the front of the text and returns what follows.
-/

namespace Radius

namespace Ipv4

/-- Read one to three decimal digits of a number up to 255, without a leading zero. -/
def readOctet (text : List Char) : Option (UInt8 × List Char) :=
  let digits := text.takeWhile (fun c => (Decimal.digit? c).isSome)
  if digits = [] ∨ 3 < digits.length ∨ (digits.head? = some '0' ∧ 1 < digits.length) then none
  else
    match Decimal.digitsFrom 255 0 digits with
    | .ok value => some (UInt8.ofNat value, text.drop digits.length)
    | .error _  => none

/-- Read a point and then an octet. -/
def readPointOctet : List Char → Option (UInt8 × List Char)
  | '.' :: rest => readOctet rest
  | _           => none

def read (text : List Char) : Option (Ipv4 × List Char) := do
  let (a, text) ← readOctet text
  let (b, text) ← readPointOctet text
  let (c, text) ← readPointOctet text
  let (d, text) ← readPointOctet text
  return (⟨⟨[a, b, c, d], rfl⟩⟩, text)

/-- The address that the whole text writes. -/
def parse? (text : String) : Option Ipv4 :=
  match read text.toList with
  | some (address, []) => some address
  | _                  => none

end Ipv4

namespace Ipv6

/-- Read one to four hexadecimal digits. -/
def readGroup (text : List Char) : Option (Nat × List Char) :=
  let digits := text.takeWhile (fun c => (Hex.digit? c).isSome)
  if digits = [] ∨ 4 < digits.length then none
  else
    let value := digits.foldl (fun value c => value * 16 + (Hex.digit? c).getD 0) 0
    some (value, text.drop digits.length)

/-- What follows the colon that every group but the first has in front. -/
def afterColon (first : Bool) (text : List Char) : Option (List Char) :=
  if first then some text
  else
    match text with
    | ':' :: rest => some rest
    | _           => none

/-- Groups read from the front of a text. -/
structure Run where
  groups : List Nat
  /-- Whether the last two groups were written as an IPv4 address. -/
  dotted : Bool
  rest : List Char

/-- Read at most `limit` groups; an IPv4 address counts as two and ends the run. -/
def readGroups : (limit : Nat) → (first : Bool) → List Char → Run
  | 0,         _,     text => ⟨[], false, text⟩
  | limit + 1, first, text =>
      let dotted := if limit = 0 then none else (afterColon first text).bind Ipv4.read
      match dotted with
      | some (address, rest) =>
          let value := address.octets.toNat
          ⟨[value / 65536, value % 65536], true, rest⟩
      | none =>
          match (afterColon first text).bind readGroup with
          | some (group, rest) =>
              let run := readGroups limit false rest
              ⟨group :: run.groups, run.dotted, run.rest⟩
          | none => ⟨[], false, text⟩

def read (text : List Char) : Option (Ipv6 × List Char) :=
  let front := readGroups 8 true text
  if front.groups.length = 8 then some (ofGroups front.groups, front.rest)
  else if front.dotted then none
  else
    match front.rest with
    | ':' :: ':' :: rest =>
        let back := readGroups (7 - front.groups.length) true rest
        let zeros := List.replicate (8 - front.groups.length - back.groups.length) 0
        some (ofGroups (front.groups ++ zeros ++ back.groups), back.rest)
    | _ => none

/-- The address that the whole text writes. -/
def parse? (text : String) : Option Ipv6 :=
  match read text.toList with
  | some (address, []) => some address
  | _                  => none

end Ipv6

/-- The address of either family that the whole text writes. -/
def Ip.parse? (text : String) : Option Ip :=
  match Ipv4.parse? text with
  | some address => some (.v4 address)
  | none         => (Ipv6.parse? text).map .v6

namespace Endpoint

/-- Read a percent sign and the number of a scope; where they do not stand the scope is 0. -/
def readScope (text : List Char) : UInt32 × List Char :=
  match text with
  | '%' :: rest =>
      let digits := rest.takeWhile (fun c => (Decimal.digit? c).isSome)
      match digits, Decimal.digitsFrom 0xFFFFFFFF 0 digits with
      | _ :: _, .ok scope => (UInt32.ofNat scope, rest.drop digits.length)
      | _,      _         => (0, text)
  | _ => (0, text)

/-- Read a colon and a port number that ends the text. -/
def readPort : List Char → Option UInt16
  | ':' :: c :: rest =>
      if (Decimal.digit? c).isSome then
        match Decimal.digitsFrom 0xFFFF 0 (c :: rest) with
        | .ok port => some (UInt16.ofNat port)
        | .error _ => none
      else none
  | _ => none

/-- The endpoint that the whole text writes. -/
def parse? (text : String) : Option Endpoint :=
  match text.toList with
  | '[' :: rest =>
      match (Ipv6.read rest).map (fun (address, rest) => (address, readScope rest)) with
      | some (address, scope, ']' :: port) =>
          (readPort port).map (Endpoint.mk (.v6 address 0 scope))
      | _ => none
  | chars =>
      match Ipv4.read chars with
      | some (address, port) => (readPort port).map (Endpoint.mk (.v4 address))
      | none                 => none

end Endpoint
end Radius
