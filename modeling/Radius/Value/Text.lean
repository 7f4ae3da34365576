-- SUMMARY: The text of typed values, and reading values of each kind from text.
import Radius.Value.Basic
import Radius.Address.Printer
import Radius.Address.Reader
import Radius.Text.Layout

/-!
# Values as text

`Value.toText` writes a value the way an operator reads it, and `Kind.parse` reads
the text of a kind straight into octets. Octets are hexadecimal with `0x` in front,
and a prefix is an address, a slash and its number of bits.
-/

namespace Radius

def Value.toText : Value → String
  | .string text             => text
  | .integer value           => toString value.toNat
  | .ipv4 address            => address.toText
  | .ipv6 address            => address.toText
  | .ipv6Prefix address bits => s!"{address.toText}/{bits.toNat}"
  | .octets bytes            => "0x" ++ Hex.encode bytes

namespace Kind

/-- The kind that a type keyword names, in any case; a keyword that is not known means octets. -/
def ofTypeName (name : String) : Kind :=
  match String.ofList (Layout.lower name.toList) with
  | "string"     => .string
  | "integer"    => .integer
  | "date"       => .integer
  | "ipaddr"     => .ipv4
  | "ipv6addr"   => .ipv6
  | "ipv6prefix" => .ipv6Prefix
  | _            => .octets

/-- What was read, or the error that the text does not write `what`. -/
def readable {α : Type} (what text : String) : Option α → Except PacketError α
  | some value => .ok value
  | none       => .error (.invalidValue (.unreadable what text))

/-- The prefix that an address, a slash and at most 128 bits write. -/
def parsePrefix? (text : String) : Option Value :=
  let address := String.ofList (text.toList.takeWhile (· ≠ '/'))
  match text.toList.dropWhile (· ≠ '/') with
  | [] => none
  | _ :: size =>
      match Decimal.parseUInt8 (String.ofList size) with
      | .ok bits =>
          if 128 < bits.toNat then none
          else (Ipv6.parse? address).map (fun address => .ipv6Prefix address bits)
      | .error _ => none

/-- The value of a kind that a text writes. -/
def parseValue : Kind → String → Except PacketError Value
  | .string,     text => .ok (.string text)
  | .integer,    text => readable "integer" text ((Decimal.parseUInt32 text).toOption.map .integer)
  | .ipv4,       text => readable "IPv4 address" text ((Ipv4.parse? text).map .ipv4)
  | .ipv6,       text => readable "IPv6 address" text ((Ipv6.parse? text).map .ipv6)
  | .ipv6Prefix, text => readable "IPv6 prefix" text (parsePrefix? text)
  | .octets,     text => readable "hex value" text ((Hex.decode? text).map .octets)
  | .vendorSpecific, text => readable "hex value" text ((Hex.decode? text).map .octets)

/-- The octets of a kind that a text writes. -/
def parse (kind : Kind) (text : String) : Except PacketError Bytes :=
  (kind.parseValue text).map Value.toBytes

end Kind
end Radius
