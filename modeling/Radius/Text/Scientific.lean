-- SUMMARY: Which texts are numbers with a fraction and an exponent.

/-!
# Numbers with fraction and exponent

A number has digits with at most one point in front of, between or behind them, and may
end with an exponent of ten. The words for infinity and for what is no number count as
numbers too. One sign may stand in front.
-/

namespace Radius.Scientific

/-- A text without the one sign that may stand in front. -/
def dropSign : List Char → List Char
  | '+' :: rest => rest
  | '-' :: rest => rest
  | text        => text

/-- Whether a text is one or more digits. -/
def isDigits (text : List Char) : Bool := !text.isEmpty && text.all Char.isDigit

/-- Whether a text is digits with at most one point. -/
def isFraction (text : List Char) : Bool := isDigits (text.erase '.')

/-- Whether a text may stand behind a number: nothing, or an exponent. -/
def isExponent : List Char → Bool
  | []        => true
  | c :: rest => (c = 'e' || c = 'E') && isDigits (dropSign rest)

/-- Whether a text without a sign is a number. -/
def isUnsigned (text : List Char) : Bool :=
  let word := String.ofList (text.map Char.toLower)
  let significand := text.takeWhile (fun c => c ≠ 'e' ∧ c ≠ 'E')
  word = "inf" || word = "infinity" || word = "nan" ||
    (isFraction significand && isExponent (text.drop significand.length))

/-- Whether a text is a number. -/
def isNumber (text : List Char) : Bool := isUnsigned (dropSign text)

end Radius.Scientific
