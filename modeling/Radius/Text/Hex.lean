-- SUMMARY: Hexadecimal text of byte strings: printing, and reading with the sign that a digit pair may carry.
import Radius.Bytes

/-!
# Hexadecimal text

Byte strings print as two lower-case digits an octet. Reading takes characters in
pairs, each pair a number of its own: two digits of either case, or a plus sign
and one digit.
-/

namespace Radius.Hex

def digitChar (n : Nat) : Char :=
  if n < 10 then Char.ofNat ('0'.toNat + n) else Char.ofNat ('a'.toNat + (n - 10))

/-- The value of a hexadecimal digit of either case. -/
def digit? (c : Char) : Option Nat :=
  if '0' ≤ c ∧ c ≤ '9' then some (c.toNat - '0'.toNat)
  else if 'a' ≤ c ∧ c ≤ 'f' then some (c.toNat - 'a'.toNat + 10)
  else if 'A' ≤ c ∧ c ≤ 'F' then some (c.toNat - 'A'.toNat + 10)
  else none

/-- The two digits of an octet. -/
def octetChars (octet : UInt8) : List Char :=
  [digitChar (octet.toNat / 16), digitChar (octet.toNat % 16)]

def encode (bytes : Bytes) : String := String.ofList (bytes.flatMap octetChars)

/-- The octet that a pair of characters writes; a plus sign may stand for the first digit. -/
def pair? (first second : Char) : Option UInt8 :=
  if first = '+' then (digit? second).map UInt8.ofNat
  else
    match digit? first, digit? second with
    | some high, some low => some (UInt8.ofNat (high * 16 + low))
    | _,         _        => none

/-- The octets that the pairs of a text write; none if a character is left over. -/
def pairs? : List Char → Option Bytes
  | []                     => some []
  | [_]                    => none
  | first :: second :: rest =>
      match pair? first second, pairs? rest with
      | some octet, some octets => some (octet :: octets)
      | _,          _           => none

/-- A text without the one `0x` or `0X` that may stand in front. -/
def dropMark : List Char → List Char
  | '0' :: 'x' :: rest => rest
  | '0' :: 'X' :: rest => rest
  | text               => text

/-- The octets of a hexadecimal text, with or without its mark. -/
def decode? (text : String) : Option Bytes := pairs? (dropMark text.toList)

end Radius.Hex
