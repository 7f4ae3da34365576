-- SUMMARY: Reading unsigned decimal numbers with an upper bound.

/-!
# Decimal numbers

An unsigned number is one or more decimal digits, with one plus sign allowed in
front. Digits are read from the left and the first fault met there is reported:
at each digit a character that is no digit before a value that is too large.
-/

namespace Radius.Decimal

/-- Why a text is no number. -/
inductive Error where
  | empty
  | invalidDigit
  | tooLarge
deriving Repr, DecidableEq

def Error.message : Error → String
  | .empty        => "cannot parse integer from empty string"
  | .invalidDigit => "invalid digit found in string"
  | .tooLarge     => "number too large to fit in target type"

/-- The value of a decimal digit. -/
def digit? (c : Char) : Option Nat :=
  if '0' ≤ c ∧ c ≤ '9' then some (c.toNat - '0'.toNat) else none

/-- Read digits behind a number read so far. -/
def digitsFrom (bound value : Nat) : List Char → Except Error Nat
  | []     => .ok value
  | c :: r =>
      match digit? c with
      | none   => .error .invalidDigit
      | some d =>
          if bound < value * 10 + d then .error .tooLarge else digitsFrom bound (value * 10 + d) r

/-- The number that a text writes, if it is at most `bound`. -/
def parse (bound : Nat) (text : String) : Except Error Nat :=
  match text.toList with
  | []       => .error .empty
  | '+' :: r => if r.isEmpty then .error .invalidDigit else digitsFrom bound 0 r
  | c :: r   => digitsFrom bound 0 (c :: r)

def parseUInt8 (text : String) : Except Error UInt8 := (parse 0xFF text).map UInt8.ofNat
def parseUInt32 (text : String) : Except Error UInt32 := (parse 0xFFFFFFFF text).map UInt32.ofNat

end Radius.Decimal
