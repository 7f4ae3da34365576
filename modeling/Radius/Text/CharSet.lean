-- SUMMARY: Sets of characters as ranges of code points.

/-!
# Sets of characters

A set of characters is a list of ranges of code points, each with its first and its
last member. The sets with names are properties of the Unicode standard, version 17.
-/

namespace Radius

/-- Ranges of code points, from low to high. -/
abbrev CharSet := List (Nat × Nat)

namespace CharSet

/-- Whether a character lies in one of the ranges. -/
def has (set : CharSet) (c : Char) : Bool :=
  set.any (fun range => range.1 ≤ c.toNat && c.toNat ≤ range.2)

/-- Whether the ranges stand from low to high, with a gap between any two. -/
def isOrdered : CharSet → Bool
  | []                     => true
  | [range]                => range.1 ≤ range.2
  | range :: next :: later =>
      range.1 ≤ range.2 && range.2 + 1 < next.1 && isOrdered (next :: later)

end CharSet
end Radius
