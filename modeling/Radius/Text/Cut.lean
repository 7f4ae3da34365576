-- SUMMARY: Cutting a text at places that are counted in octets.

/-!
# Cutting a text

A place in a text is the number of octets in front of it when the text is encoded as
UTF-8. A cut is possible between characters only.
-/

namespace Radius.Cut

/-- The octets that a text takes. -/
def size : List Char → Nat
  | []        => 0
  | c :: rest => c.utf8Size + size rest

/-- The text from a place on; none if a character lies across the place. -/
def drop? : (place : Nat) → List Char → Option (List Char)
  | 0,         text      => some text
  | _ + 1,     []        => none
  | place + 1, c :: rest =>
      if c.utf8Size ≤ place + 1 then drop? (place + 1 - c.utf8Size) rest else none

/-- The text up to a place; none if a character lies across the place. -/
def take? : (place : Nat) → List Char → Option (List Char)
  | 0,         _         => some []
  | _ + 1,     []        => none
  | place + 1, c :: rest =>
      if c.utf8Size ≤ place + 1 then (take? (place + 1 - c.utf8Size) rest).map (c :: ·) else none

/-- The text between two places; none if a character lies across one of them. -/
def between? (start stop : Nat) (text : List Char) : Option (List Char) :=
  (drop? start text).bind (take? (stop - start))

/-! ## Places between characters -/

theorem drop?_add (c : Char) (place : Nat) (rest : List Char) :
    drop? (c.utf8Size + place) (c :: rest) = drop? place rest := by
  have := c.utf8Size_pos
  obtain ⟨n, eq⟩ : ∃ n, c.utf8Size + place = n + 1 := ⟨c.utf8Size + place - 1, by omega⟩
  rw [eq, drop?, if_pos (by omega)]
  congr 1
  omega

theorem take?_add (c : Char) (place : Nat) (rest : List Char) :
    take? (c.utf8Size + place) (c :: rest) = (take? place rest).map (c :: ·) := by
  have := c.utf8Size_pos
  obtain ⟨n, eq⟩ : ∃ n, c.utf8Size + place = n + 1 := ⟨c.utf8Size + place - 1, by omega⟩
  rw [eq, take?, if_pos (by omega)]
  congr 2
  omega

/-- Behind the octets of the first characters comes the rest. -/
theorem drop?_size (front rest : List Char) : drop? (size front) (front ++ rest) = some rest := by
  induction front with
  | nil => simp [size, drop?]
  | cons c front ih => rw [size, List.cons_append, drop?_add, ih]

/-- Up to the octets of the first characters, these characters stand. -/
theorem take?_size (front rest : List Char) : take? (size front) (front ++ rest) = some front := by
  induction front with
  | nil => simp [size, take?]
  | cons c front ih => rw [size, List.cons_append, take?_add, ih, Option.map_some]

end Radius.Cut
