-- SUMMARY: Texts as segments with slashes between.

/-!
# Segments

Resource names, paths and address ranges set their parts apart with slashes.
`segments` gives the parts, the empty ones included, and `joinSegments` puts slashes
between them again.
-/

namespace Radius

/-- The parts of a text between slashes; a text without slashes is one part. -/
def segments : List Char → List (List Char)
  | []        => [[]]
  | c :: rest =>
      if c = '/' then [] :: segments rest
      else
        match segments rest with
        | []               => [[c]]
        | segment :: later => (c :: segment) :: later

def joinSegments : List (List Char) → List Char
  | []               => []
  | [segment]        => segment
  | segment :: later => segment ++ '/' :: joinSegments later

theorem segments_ne_nil (text : List Char) : segments text ≠ [] := by
  cases text with
  | nil => simp [segments]
  | cons c rest =>
      rw [segments]
      split
      · simp
      · split <;> simp

theorem joinSegments_segments (text : List Char) : joinSegments (segments text) = text := by
  induction text with
  | nil => rfl
  | cons c rest ih =>
      have h := segments_ne_nil rest
      rw [segments]
      split
      · next hc =>
          subst hc
          cases hs : segments rest with
          | nil => exact absurd hs h
          | cons segment later => simp [joinSegments, hs ▸ ih]
      · cases hs : segments rest with
        | nil => exact absurd hs h
        | cons segment later =>
            rw [hs] at ih
            cases later with
            | nil => simpa [joinSegments] using ih
            | cons next others =>
                simp only [joinSegments, List.cons_append] at ih ⊢
                rw [ih]

end Radius
