-- SUMMARY: Dictionary text without a line that is skipped whenever it is read makes the same dictionary, and so does text with more lines that say nothing.
import Radius.Proofs.Dictionary.Openings
import Radius.Proofs.Text.Words

/-!
# Skipped lines

A line that cannot be carried out leaves a warning and nothing else, whatever dictionary it meets
and in whichever opening of its resource. So it can be left out if it is skipped in every opening;
what the lines around it do does not depend on it. A line that is blank, a comment or begun by an
unknown word is skipped everywhere, so any number of these can be put in.
-/

namespace Radius

/-! ## Lines that say nothing -/

namespace Line

/-- Nothing but white space. -/
def IsBlank (line : List Char) : Prop := ∀ c ∈ line, Layout.isBlank c

instance (line : List Char) : Decidable (IsBlank line) :=
  decidable_of_iff (line.all Layout.isBlank = true) List.all_eq_true

/-- A number sign with nothing but white space before it. -/
def IsComment (line : List Char) : Prop :=
  ∃ space text, IsBlank space ∧ line = space ++ '#' :: text

/-- The first word is no directive. -/
def IsUnknown (line : List Char) : Prop := tokensOf line ≠ [] ∧ directive? line = none

def SaysNothing (line : List Char) : Prop := IsBlank line ∨ IsComment line ∨ IsUnknown line

section

variable {c : Char} {rest : List Char}

theorem tokensOf_cons_of_blank (h : Layout.isBlank c) : tokensOf (c :: rest) = tokensOf rest := by
  rw [tokensOf, tokensOf, Layout.words_cons_of_blank h]

theorem tokensOf_cons_of_not_blank (h : ¬ Layout.isBlank c) :
    tokensOf (c :: rest) = [] ↔ c = '#' := by
  obtain ⟨word, later, hwords⟩ := Layout.words_cons_of_not_blank h rest
  simp [tokensOf, hwords]

theorem isComment_cons_of_blank (h : Layout.isBlank c) :
    IsComment (c :: rest) ↔ IsComment rest := by
  constructor
  · rintro ⟨space, text, hspace, hline⟩
    cases space with
    | nil =>
        cases hline
        exact absurd h (by decide)
    | cons d space =>
        cases hline
        exact ⟨space, text, (List.forall_mem_cons.mp hspace).2, rfl⟩
  · rintro ⟨space, text, hspace, rfl⟩
    exact ⟨c :: space, text, List.forall_mem_cons.mpr ⟨h, hspace⟩, rfl⟩

theorem isComment_cons_of_not_blank (h : ¬ Layout.isBlank c) :
    IsComment (c :: rest) ↔ c = '#' := by
  constructor
  · rintro ⟨space, text, hspace, hline⟩
    cases space with
    | nil =>
        cases hline
        rfl
    | cons d space =>
        cases hline
        exact absurd (List.forall_mem_cons.mp hspace).1 h
  · rintro rfl
    exact ⟨[], rest, List.forall_mem_nil _, rfl⟩

end

/-- The lines without words are the blank ones and the comments. -/
theorem tokensOf_eq_nil_iff {line : List Char} :
    tokensOf line = [] ↔ IsBlank line ∨ IsComment line := by
  induction line with
  | nil =>
      have hblank : IsBlank [] := List.forall_mem_nil _
      exact iff_of_true rfl (.inl hblank)
  | cons c rest ih =>
      by_cases hc : Layout.isBlank c
      · have hblank : IsBlank (c :: rest) ↔ IsBlank rest :=
          List.forall_mem_cons.trans (and_iff_right hc)
        rw [tokensOf_cons_of_blank hc, ih, hblank, isComment_cons_of_blank hc]
      · have hblank : ¬ IsBlank (c :: rest) := fun hall => hc (List.forall_mem_cons.mp hall).1
        rw [tokensOf_cons_of_not_blank hc, isComment_cons_of_not_blank hc, or_iff_right hblank]

theorem directive?_of_saysNothing {line : List Char} (h : SaysNothing line) :
    directive? line = none := by
  rcases h with hblank | hcomment | hunknown
  · exact directive?_of_blank (tokensOf_eq_nil_iff.mpr (.inl hblank))
  · exact directive?_of_blank (tokensOf_eq_nil_iff.mpr (.inr hcomment))
  · exact hunknown.2

/-- The first lines with lines among them that say nothing. -/
inductive Padded : (lines padded : List (List Char)) → Prop
  | nil : Padded [] []
  | keep {lines padded : List (List Char)} (line : List Char) : Padded lines padded →
      Padded (line :: lines) (line :: padded)
  | insert {lines padded : List (List Char)} {line : List Char} : SaysNothing line →
      Padded lines padded → Padded lines (line :: padded)

theorem Padded.refl (lines : List (List Char)) : Padded lines lines := by
  induction lines with
  | nil => exact .nil
  | cons line _ ih => exact .keep line ih

/-- Lines that say nothing make no statements. -/
theorem statements_of_padded {lines padded : List (List Char)} (h : Padded lines padded) :
    statements padded = statements lines := by
  induction h with
  | nil => rfl
  | keep line _ ih => rw [statements_cons, statements_cons, ih]
  | @insert lines padded line hline _ ih =>
      have hnone : statement? line = none := by
        rw [statement?, directive?_of_saysNothing hline, Option.bind_none]
      rw [statements_cons, hnone, ih, Option.toList_none, List.nil_append]

end Line

/-! ## Skipping -/

/-- The causes for which a line is passed over. -/
def LoadWarning.Cause.isSkip : LoadWarning.Cause → Bool
  | .skipped _          => true
  | .unknownDirective _ => true
  | .trailingTokens ..  => false
  | .includeTooDeep _   => true
  | .includeNotFound _  => true
  | .includeFailed _    => false

namespace Loading

theorem head?_since {after before : Loading} {remark : LoadRemark}
    (h : (after.since before).head? = some remark) :
    after.journal.head? = some remark ∧ before.journal.length < after.journal.length := by
  rw [since, List.head?_take] at h
  split at h
  · cases h
  · exact ⟨h, by omega⟩

/-- Whether a line of a resource has been passed over between two loadings. -/
def skips (before after : Loading) (resource : String) (number : Nat) : Bool :=
  match (after.since before).head? with
  | some (.warning warning) =>
      warning.resource = resource && warning.line = number && warning.cause.isSkip
  | _ => false

theorem exists_cause_of_skips {before after : Loading} {resource : String} {number : Nat}
    (h : skips before after resource number) :
    ∃ cause, cause.isSkip ∧ after.journal.head? = some (.warning ⟨resource, number, cause⟩) ∧
      before.journal.length < after.journal.length := by
  unfold skips at h
  split at h
  · rename_i warning hhead
    obtain ⟨hjournal, hlength⟩ := head?_since hhead
    simp only [Bool.and_eq_true, decide_eq_true_eq] at h
    obtain ⟨⟨rfl, rfl⟩, hskip⟩ := h
    exact ⟨warning.cause, hskip, hjournal, hlength⟩
  · cases h

/-- Reading a resource ends with the remark that it has ended. -/
theorem head?_journal_readTo {source : Source} {levels : Nat} {resource : String}
    {loading loaded : Loading} (h : readTo source levels resource loading = .ok loaded) :
    ∃ types, loaded.journal.head? = some (.finished resource types) := by
  rw [readTo_eq, readResource] at h
  split at h
  · cases h
  · cases h
    exact ⟨_, rfl⟩

/-- A line that does not leave the dictionary alone ends with no remark, with one on its words, or
with the end of the resource that it includes. -/
theorem dictionary_step_or_head? (source : Source) (levels : Nat) (resource : String)
    (number : Nat) (text : List Char) (loading : Loading) :
    let after := step source (reader? source levels) resource loading ⟨number, Line.tokensOf text⟩
    after.dictionary = loading.dictionary ∨
      after.journal = loading.journal ∨
      (∃ count directive, after.journal.head? =
        some (.warning ⟨resource, number, .trailingTokens count directive⟩)) ∨
      ∃ found types, after.journal.head? = some (.finished found types) := by
  dsimp only
  have hsteps := steps_step source (reader? source levels) resource number text loading
  generalize step source (reader? source levels) resource loading _ = after at hsteps ⊢
  cases hsteps with
  | unknown cause hnone => exact .inl rfl
  | refused directive cause hnone => exact .inl (dictionary_remarkTrailing ..)
  | includes directive target hsome =>
      unfold follow
      split
      · exact .inl (dictionary_remarkTrailing ..)
      rename_i read hread
      split
      · exact .inl (dictionary_remarkTrailing ..)
      rename_i found _
      split
      · rename_i loaded hloaded
        cases levels with
        | zero => cases hread
        | succ levels =>
            cases hread
            obtain ⟨types, htypes⟩ := head?_journal_readTo hloaded
            exact .inr (.inr (.inr ⟨found, types, htypes⟩))
      · exact .inl (dictionary_remarkTrailing ..)
  | states directive statement hsome hplain =>
      dsimp only
      split
      · unfold remarkTrailing
        split
        · exact .inr (.inr (.inl ⟨_, directive, rfl⟩))
        · exact .inr (.inl rfl)
      · exact .inl (dictionary_remarkTrailing ..)

/-- A line that is passed over leaves the dictionary alone. -/
theorem dictionary_step_of_skips {source : Source} {levels : Nat} {resource : String}
    {number : Nat} {text : List Char} {loading : Loading}
    (h : skips loading
      (step source (reader? source levels) resource loading ⟨number, Line.tokensOf text⟩) resource
      number) :
    (step source (reader? source levels) resource loading
      ⟨number, Line.tokensOf text⟩).dictionary = loading.dictionary := by
  obtain ⟨cause, hskip, hhead, hlength⟩ := exists_cause_of_skips h
  rcases dictionary_step_or_head? source levels resource number text loading with
    hsame | hjournal | ⟨count, directive, htrailing⟩ | ⟨found, types, hfinished⟩
  · exact hsame
  · rw [hjournal] at hlength
    exact absurd hlength (Nat.lt_irrefl _)
  · rw [htrailing] at hhead
    cases hhead
    cases hskip
  · rw [hfinished] at hhead
    cases hhead

end Loading

/-- Whether the line behind these ones is passed over in an opening of its resource. -/
def Opening.skips (source : Source) (before : List (List Char)) (line : List Char)
    (opening : Opening) : Bool :=
  (opening.through source before).skips (opening.through source (before ++ [line]))
    opening.resource (before.length + 1)

theorem Opening.idleAt_of_blank {source : Source} {name : String} {before : List (List Char)}
    {line : List Char} (h : Line.tokensOf line = []) (opening : Opening) :
    opening.IdleAt source name before line := by
  intro _
  rw [through_concat, Loading.readLines_of_blank _ _ _ _ _ h]

theorem Opening.idleAt_of_skips {source : Source} {name : String} {before : List (List Char)}
    {line : List Char} {opening : Opening}
    (h : opening.resource = name → opening.skips source before line) :
    opening.IdleAt source name before line := by
  by_cases hblank : Line.tokensOf line = []
  · exact idleAt_of_blank hblank opening
  intro hname
  have hskips := h hname
  rw [skips, through_concat, Loading.readLines_of_words _ _ _ _ _ hblank,
    Nat.add_comm before.length] at hskips
  rw [through_concat, Loading.readLines_of_words _ _ _ _ _ hblank]
  exact Loading.dictionary_step_of_skips hskips

namespace Dictionary

/-- Lines that are skipped mean nothing. In any resources, a line that is blank or a comment can be
left out, and so can one that is passed over with a warning in every opening of its resource while
`top` is loaded; and in any number of texts, any number of lines can be put in anywhere that are
blank, comments or begun by an unknown word. Loading comes to the same and leaves the same
dictionary. -/
theorem skipped_lines_mean_nothing (resources : Resources) (dictionary : Dictionary)
    (top : String) :
    (∀ name text shorter before line after, resources.find? name = some text →
      Layout.lines text.toList = before ++ line :: after →
      Layout.lines shorter.toList = before ++ after →
      (Line.IsBlank line ∨ Line.IsComment line ∨
        ∀ opening ∈ Loading.openings resources.source maxIncludeDepth top ⟨dictionary, []⟩,
          opening.resource = name → opening.skips resources.source before line) →
      Update.outcome (Update.load (Resources.source (resources.insert name shorter)) top)
          dictionary =
        Update.outcome (Update.load resources.source top) dictionary) ∧
    ∀ padded : Resources,
      (∀ name, Option.Rel (fun text text' =>
          Line.Padded (Layout.lines text.toList) (Layout.lines text'.toList))
        (resources.find? name) (padded.find? name)) →
      Update.outcome (Update.load padded.source top) dictionary =
        Update.outcome (Update.load resources.source top) dictionary := by
  constructor
  · intro name text shorter before line after htext hlines hshorter hidle
    refine Resources.outcome_load_insert htext hlines hshorter fun opening hopening => ?_
    rcases hidle with hblank | hcomment | hskipped
    · exact opening.idleAt_of_blank (Line.tokensOf_eq_nil_iff.mpr (.inl hblank))
    · exact opening.idleAt_of_blank (Line.tokensOf_eq_nil_iff.mpr (.inr hcomment))
    · exact Opening.idleAt_of_skips (hskipped opening hopening)
  · intro padded hpadded
    exact Resources.outcome_load_congr Line.statements_of_padded hpadded dictionary top

/-- The sample resources without the include of a resource that is missing. -/
def Sample.shorter : String := Line.textOf (
  ["ATTRIBUTE Port 5 integer",
    "VALUE Port Slow 1",
    "$INCLUDE vendor/acme",
    "VALUE Port Fast 1"].map String.toList)

/-- The same resource with a comment, an empty line, one of white space and an unknown word. -/
def Sample.padded : String := Line.textOf (
  ["  # Ports",
    "ATTRIBUTE Port 5 integer",
    "",
    "VALUE Port Slow 1",
    "$INCLUDE vendor/acme",
    "\t ",
    "$INCLUDE none",
    "VALUE Port Fast 1",
    "PORTS 1"].map String.toList)

theorem Sample.padded_pads (name : String) :
    Option.Rel (fun text text' =>
        Line.Padded (Layout.lines text.toList) (Layout.lines text'.toList))
      (resources.find? name) ((resources.insert "main" padded).find? name) := by
  have hfound : resources.find? "main" = some (Line.textOf (
      ["ATTRIBUTE Port 5 integer", "VALUE Port Slow 1", "$INCLUDE vendor/acme", "$INCLUDE none",
        "VALUE Port Fast 1"].map String.toList)) := rfl
  have hcomment : Line.SaysNothing "  # Ports".toList :=
    .inr (.inl ⟨[' ', ' '], " Ports".toList, by decide, by decide⟩)
  have hempty : Line.SaysNothing [] := .inl (List.forall_mem_nil _)
  have hblank : Line.SaysNothing ['\t', ' '] := .inl (by decide)
  have hunknown : Line.SaysNothing "PORTS 1".toList :=
    .inr (.inr ⟨by decide +kernel, by decide +kernel⟩)
  refine Table.rel_find?_insert (fun text => .refl (Layout.lines text.toList)) hfound ?_ name
  rw [padded, Line.lines_textOf (by decide +kernel), Line.lines_textOf (by decide +kernel)]
  exact .insert hcomment (.keep _ (.insert hempty (.keep _ (.keep _ (.insert hblank
    (.keep _ (.keep _ (.insert hunknown .nil))))))))

theorem sample_skipped_lines_mean_nothing :
    Update.outcome (Update.load (Resources.source (Sample.resources.insert "main" Sample.shorter))
        "main") empty =
      Update.outcome (Update.load Sample.resources.source "main") empty ∧
    Update.outcome (Update.load (Resources.source (Sample.resources.insert "door" "")) "main")
        empty =
      Update.outcome (Update.load Sample.resources.source "main") empty ∧
    Update.outcome (Update.load (Resources.source (Sample.resources.insert "main" Sample.padded))
        "main") empty =
      Update.outcome (Update.load Sample.resources.source "main") empty := by
  obtain ⟨hmeans, hpadded⟩ := skipped_lines_mean_nothing Sample.resources empty "main"
  refine ⟨?_, ?_, hpadded _ Sample.padded_pads⟩
  · exact hmeans "main" _ Sample.shorter
      (["ATTRIBUTE Port 5 integer", "VALUE Port Slow 1", "$INCLUDE vendor/acme"].map String.toList)
      "$INCLUDE none".toList ["VALUE Port Fast 1".toList] rfl (by decide +kernel)
      (by decide +kernel) (.inr (.inr (by decide +kernel)))
  · -- The code of the type has been taken by the resource that includes this one.
    exact hmeans "door" _ "" [] "ATTRIBUTE Door 5 string".toList [] rfl (by decide +kernel)
      (by decide +kernel) (.inr (.inr (by decide +kernel)))

end Dictionary
end Radius
