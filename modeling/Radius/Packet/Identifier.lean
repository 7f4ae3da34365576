-- SUMMARY: Allocation of packet identifiers in a repeating sequence.

/-!
# Packet identifiers

Identifiers are handed out in sequence and start over after 255, so any 256
consecutive ones are all different.
-/

namespace Radius

/-- The identifier to hand out next. -/
structure IdentifierSequence where
  next : UInt8
deriving DecidableEq, Repr

namespace IdentifierSequence

def startingAt (identifier : UInt8) : IdentifierSequence := ⟨identifier⟩

def new : IdentifierSequence := startingAt 0

/-- Hand out an identifier. -/
def take (sequence : IdentifierSequence) : UInt8 × IdentifierSequence :=
  (sequence.next, ⟨sequence.next + 1⟩)

/-- Hand out `count` identifiers, first to last. -/
def takeMany : (count : Nat) → IdentifierSequence → List UInt8 × IdentifierSequence
  | 0,         sequence => ([], sequence)
  | count + 1, sequence =>
      let (first, later) := sequence.take
      let (others, last) := takeMany count later
      (first :: others, last)

end IdentifierSequence
end Radius
