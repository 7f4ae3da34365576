-- SUMMARY: A text has the segments that are joined to it, if there is one at all and none has a slash.
import Radius.Text.Segments

/-!
# Segments of a joined text

A slash parts the segments before it from those behind it. So `segments` undoes `joinSegments`, for
any segments that have no slash themselves. No text has no segments: the empty one has one, which is
empty.
-/

namespace Radius

theorem segments_append_slash (before after : List Char) :
    segments (before ++ '/' :: after) = segments before ++ segments after := by
  induction before with
  | nil => simp [segments]
  | cons c rest ih =>
      rw [List.cons_append, segments, segments, ih]
      split
      · rfl
      · cases hrest : segments rest with
        | nil => exact absurd hrest (segments_ne_nil rest)
        | cons segment later => rfl

theorem segments_of_slash_not_mem {text : List Char} (h : '/' ∉ text) : segments text = [text] := by
  induction text with
  | nil => rfl
  | cons c rest ih =>
      obtain ⟨hc, hrest⟩ := List.ne_and_not_mem_of_not_mem_cons h
      rw [segments, if_neg (Ne.symm hc), ih hrest]

theorem slash_not_mem_of_mem_segments {text segment : List Char} (h : segment ∈ segments text) :
    '/' ∉ segment := by
  induction text generalizing segment with
  | nil =>
      cases List.mem_singleton.mp h
      exact List.not_mem_nil
  | cons c rest ih =>
      rw [segments] at h
      split at h
      · rcases List.mem_cons.mp h with rfl | hlater
        · exact List.not_mem_nil
        · exact ih hlater
      rename_i hc
      cases hrest : segments rest with
      | nil => exact absurd hrest (segments_ne_nil rest)
      | cons first later =>
          rw [hrest] at h ih
          rcases List.mem_cons.mp h with rfl | hlater
          · exact List.not_mem_cons_of_ne_of_not_mem (Ne.symm hc) (ih List.mem_cons_self)
          · exact ih (List.mem_cons_of_mem _ hlater)

theorem segments_joinSegments {path : List (List Char)} (hne : path ≠ [])
    (h : ∀ segment ∈ path, '/' ∉ segment) : segments (joinSegments path) = path := by
  induction path with
  | nil => exact absurd rfl hne
  | cons segment later ih =>
      obtain ⟨hsegment, hlater⟩ := List.forall_mem_cons.mp h
      cases later with
      | nil => exact segments_of_slash_not_mem hsegment
      | cons next later =>
          rw [joinSegments, segments_append_slash, segments_of_slash_not_mem hsegment,
            ih (List.cons_ne_nil _ _) hlater, List.singleton_append]
          exact List.cons_ne_nil _ _

/-- A joined text begins as its first segment does. -/
theorem head?_joinSegments {segment : List Char} (h : segment ≠ []) (later : List (List Char)) :
    (joinSegments (segment :: later)).head? = segment.head? := by
  obtain ⟨c, rest, rfl⟩ := List.exists_cons_of_ne_nil h
  cases later <;> rfl

end Radius
