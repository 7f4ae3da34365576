-- SUMMARY: The words of a line are those it writes, whatever white space stands before, between and behind them.
import Radius.Text.Layout

/-!
# Words and white space

`Layout.Writes` says of a line which words it writes, with white space of any kind in any amount
around them. `Layout.words` reads these words back, and every line writes the words that are read
from it, so two lines with the same words differ in their white space only.
-/

namespace Radius.Layout

/-! ## White space at the ends -/

theorem words_cons_of_blank {c : Char} (h : isBlank c) (rest : List Char) :
    words (c :: rest) = words rest := by
  cases rest with
  | nil => simp [words, h]
  | cons d rest => simp [words, h]

/-- A character that is not blank begins the first word. -/
theorem words_cons_of_not_blank {c : Char} (h : ¬ isBlank c) (rest : List Char) :
    ∃ word later, words (c :: rest) = (c :: word) :: later := by
  cases rest with
  | nil => exact ⟨[], [], by simp [words, h]⟩
  | cons d rest =>
      rw [words, if_neg h]
      split
      · exact ⟨[], _, rfl⟩
      · cases words (d :: rest) with
        | nil => exact ⟨[], [], rfl⟩
        | cons word later => exact ⟨word, later, rfl⟩

theorem words_concat_of_blank {c : Char} (h : isBlank c) (text : List Char) :
    words (text ++ [c]) = words text := by
  induction text with
  | nil => simp [words, h]
  | cons d rest ih =>
      cases rest with
      | nil => simp [words, h]
      | cons e rest =>
          rw [List.cons_append] at ih
          rw [List.cons_append, List.cons_append, words, words, ih]

theorem words_append_of_blank {space : List Char} (h : ∀ c ∈ space, isBlank c) (text : List Char) :
    words (space ++ text) = words text := by
  induction space with
  | nil => rfl
  | cons c space ih =>
      obtain ⟨hc, hspace⟩ := List.forall_mem_cons.mp h
      rw [List.cons_append, words_cons_of_blank hc, ih hspace]

/-! ## Lines that write words -/

/-- A run of characters other than white space. -/
structure IsWord (word : List Char) : Prop where
  ne_nil : word ≠ []
  not_blank : ∀ c ∈ word, ¬ isBlank c

/-- A line that writes these words, with any white space around them and at least some between. -/
inductive Writes : (words : List (List Char)) → (line : List Char) → Prop
  | blank {space : List Char} : (∀ c ∈ space, isBlank c) → Writes [] space
  | word {space word rest : List Char} {later : List (List Char)} : (∀ c ∈ space, isBlank c) →
      IsWord word → (∀ c ∈ rest.head?, isBlank c) → Writes later rest →
      Writes (word :: later) (space ++ word ++ rest)

/-- A line that begins with a word. -/
theorem Writes.front {word rest : List Char} {later : List (List Char)} (hword : IsWord word)
    (hrest : ∀ c ∈ rest.head?, isBlank c) (hlater : Writes later rest) :
    Writes (word :: later) (word ++ rest) := by
  have hspace : ∀ c ∈ ([] : List Char), isBlank c := List.forall_mem_nil _
  exact .word hspace hword hrest hlater

/-- A word ends where white space begins or the line ends. -/
theorem words_append_of_isWord {word rest : List Char} (h : IsWord word)
    (hrest : ∀ c ∈ rest.head?, isBlank c) : words (word ++ rest) = word :: words rest := by
  obtain ⟨hne, hword⟩ := h
  induction word with
  | nil => exact absurd rfl hne
  | cons c word ih =>
      obtain ⟨hc, hlater⟩ := List.forall_mem_cons.mp hword
      cases word with
      | nil =>
          cases rest with
          | nil => simp [words, hc]
          | cons d rest =>
              have hd : isBlank d := hrest d rfl
              rw [List.singleton_append, words, if_neg hc, if_pos hd]
      | cons d word =>
          have hd : ¬ isBlank d := hlater d List.mem_cons_self
          have hread := ih (List.cons_ne_nil _ _) hlater
          rw [List.cons_append] at hread
          rw [List.cons_append, List.cons_append, words, if_neg hc, if_neg hd, hread]

/-- What a line writes is read from it. -/
theorem words_of_writes {written : List (List Char)} {line : List Char} (h : Writes written line) :
    words line = written := by
  induction h with
  | @blank space hspace =>
      rw [← List.append_nil space, words_append_of_blank hspace]
      rfl
  | word hspace hword hrest _ ih =>
      rw [List.append_assoc, words_append_of_blank hspace, words_append_of_isWord hword hrest, ih]

/-- White space in front makes no difference to what a line writes. -/
theorem Writes.cons_blank {written : List (List Char)} {line : List Char} (h : Writes written line)
    {c : Char} (hc : isBlank c) : Writes written (c :: line) := by
  cases h with
  | blank hspace => exact .blank (List.forall_mem_cons.mpr ⟨hc, hspace⟩)
  | word hspace hword hrest hlater =>
      exact .word (List.forall_mem_cons.mpr ⟨hc, hspace⟩) hword hrest hlater

/-- A character in front of a word belongs to it. -/
theorem Writes.cons_word {c d : Char} {word rest : List Char} {later : List (List Char)}
    (h : Writes ((d :: word) :: later) (d :: rest)) (hc : ¬ isBlank c) :
    Writes ((c :: d :: word) :: later) (c :: d :: rest) := by
  generalize hwritten : (d :: word) :: later = written, hline : d :: rest = line at h
  cases h with
  | blank _ => cases hwritten
  | @word space word' rest' later' hspace hword hrest hlater =>
      cases hwritten
      have hd : ¬ isBlank d := hword.not_blank d List.mem_cons_self
      cases space with
      | nil =>
          exact .front
            ⟨List.cons_ne_nil _ _, List.forall_mem_cons.mpr ⟨hc, hword.not_blank⟩⟩ hrest hlater
      | cons e space =>
          cases hline
          exact absurd (hspace d List.mem_cons_self) hd

/-- Every line writes what is read from it. -/
theorem writes_words (line : List Char) : Writes (words line) line := by
  induction line with
  | nil => exact .blank (List.forall_mem_nil _)
  | cons c rest ih =>
      by_cases hc : isBlank c
      · rw [words_cons_of_blank hc]
        exact ih.cons_blank hc
      have hlone : IsWord [c] := ⟨List.cons_ne_nil _ _, List.forall_mem_singleton.mpr hc⟩
      cases rest with
      | nil =>
          rw [words, if_neg hc]
          exact .front hlone (by simp) ih
      | cons d rest =>
          rw [words, if_neg hc]
          split
          · rename_i hd
            exact .front hlone (by simpa using hd) ih
          · rename_i hd
            obtain ⟨word, later, hwords⟩ := words_cons_of_not_blank hd rest
            rw [hwords] at ih ⊢
            exact ih.cons_word hc

end Radius.Layout
