-- SUMMARY: Loading a dictionary with the first word of every line taken by a bare index: a line that is not skipped has a word, and no text traps the loading.
import Mathlib.Data.List.DropRight
import Radius.Proofs.Dictionary.Skipping
import Radius.Proofs.Raw.Dictionary

/-!
# Loading by indices

A line is trimmed, and skipped if nothing is left of it or a number sign stands first. Its directive
is its first word, which is taken without looking whether there is one: trimming and splitting have
to mean the same white space. The index tables lead to definitions all the while, because every
statement leaves them so.
-/

namespace Radius

/-! ## Trimming and splitting -/

namespace Layout

theorem words_dropWhile (text : List Char) : words (text.dropWhile isBlank) = words text := by
  induction text with
  | nil => rfl
  | cons c rest ih =>
      by_cases hc : isBlank c
      · rw [List.dropWhile_cons_of_pos hc, ih, words_cons_of_blank hc]
      · rw [List.dropWhile_cons_of_neg hc]

theorem trim_eq (text : List Char) : trim text = (text.dropWhile isBlank).rdropWhile isBlank := rfl

theorem words_rdropWhile (text : List Char) : words (text.rdropWhile isBlank) = words text := by
  induction text using List.reverseRecOn with
  | nil => rfl
  | append_singleton text c ih =>
      by_cases hc : isBlank c
      · rw [List.rdropWhile_concat_pos _ _ _ hc, ih, words_concat_of_blank hc]
      · rw [List.rdropWhile_concat_neg _ _ _ hc]

theorem words_trim (text : List Char) : words (trim text) = words text := by
  rw [trim_eq, words_rdropWhile, words_dropWhile]

theorem not_isBlank_of_trim {text rest : List Char} {c : Char} (h : trim text = c :: rest) :
    ¬ isBlank c := by
  rw [trim_eq] at h
  obtain ⟨blanks, hprefix⟩ := List.rdropWhile_prefix isBlank (text.dropWhile isBlank)
  rw [h, List.cons_append] at hprefix
  have hhead := List.head?_dropWhile_not isBlank text
  rw [← hprefix] at hhead
  simpa using hhead

end Layout

namespace Line

/-- The lines that are skipped are those that say nothing. -/
theorem isSkipped_iff {text : List Char} :
    (Layout.trim text).isEmpty ∨ (Layout.trim text).head? = some '#' ↔ tokensOf text = [] := by
  rw [tokensOf, ← Layout.words_trim text]
  cases htrim : Layout.trim text with
  | nil => simp [Layout.words]
  | cons c rest =>
      obtain ⟨word, later, hwords⟩ :=
        Layout.words_cons_of_not_blank (Layout.not_isBlank_of_trim htrim) rest
      simp [hwords]

theorem tokensOf_eq_words {text : List Char} (h : tokensOf text ≠ []) :
    tokensOf text = (Layout.words (Layout.trim text)).map String.ofList := by
  rw [Layout.words_trim]
  unfold tokensOf at h ⊢
  cases hwords : Layout.words text with
  | nil => rfl
  | cons first later =>
      rw [hwords] at h
      dsimp only at h ⊢
      split
      · rename_i hsign
        exact absurd (if_pos hsign) h
      · rfl

theorem ofEntry_of_nil {entry : List Char × Nat} (h : tokensOf entry.1 = []) :
    ofEntry entry = none := by
  rw [ofEntry, h]

theorem ofEntry_of_ne_nil {entry : List Char × Nat} (h : tokensOf entry.1 ≠ []) :
    ofEntry entry = some ⟨entry.2, tokensOf entry.1⟩ := by
  unfold ofEntry
  split
  · rename_i hnil
    exact absurd hnil h
  · rfl

end Line

namespace Raw

/-! ## Lines -/

/-- Reads a resource into a dictionary under way. -/
abbrev Reader := (resource : String) → Loading → Raw DictionaryError Loading

/-- Follow an include; `deeper` reads the resource it means, unless the include is too deep. -/
def follow (source : Source) (deeper : Option Reader) (resource : String) (number : Nat)
    (target : String) (loading : Loading) : Raw DictionaryError Loading :=
  match deeper with
  | none => return loading.warn resource number (.includeTooDeep target)
  | some read =>
      match source.resolve resource target with
      | none => return loading.warn resource number (.includeNotFound target)
      | some found => do
          match ← attempt (read found loading) with
          | .ok loaded   => return loaded
          | .error fault => return loading.warn resource number (.includeFailed fault)

/-- Carry one line out. -/
def step (source : Source) (deeper : Option Reader) (resource : String) (loading : Loading)
    (line : Line) : Raw DictionaryError Loading := do
  let keyword := String.ofList (Layout.upper (← item line.tokens 0).toList)
  match Directive.ofKeyword? keyword with
  | none => return loading.warn resource line.number (.unknownDirective keyword)
  | some directive =>
      let loading := loading.remarkTrailing resource line directive
      match ← attempt (statement directive line.tokens) with
      | .error fault => return loading.warn resource line.number (.skipped fault)
      | .ok (.inclusion target) => follow source deeper resource line.number target loading
      | .ok statement =>
          match ← attempt (apply loading.dictionary statement) with
          | .ok dictionary => return { loading with dictionary := dictionary }
          | .error fault   => return loading.warn resource line.number (.skipped fault)

/-- Carry a line out if it says something. -/
def stepText (source : Source) (deeper : Option Reader) (resource : String) (loading : Loading)
    (entry : List Char × Nat) : Raw DictionaryError Loading :=
  let text := Layout.trim entry.1
  if text.isEmpty ∨ text.head? = some '#' then return loading
  else step source deeper resource loading ⟨entry.2, (Layout.words text).map String.ofList⟩

section

variable {source : Source} {deeper : Option Reader} {resource : String} {loading : Loading}
  {entry : List Char × Nat}

theorem stepText_of_nil (h : Line.tokensOf entry.1 = []) :
    stepText source deeper resource loading entry = .done loading :=
  if_pos (Line.isSkipped_iff.mpr h)

theorem stepText_of_ne_nil (h : Line.tokensOf entry.1 ≠ []) :
    stepText source deeper resource loading entry =
      step source deeper resource loading ⟨entry.2, Line.tokensOf entry.1⟩ := by
  rw [Line.tokensOf_eq_words h]
  exact if_neg fun hskipped => h (Line.isSkipped_iff.mp hskipped)

end

/-- Read a resource whose includes `deeper` reads. -/
def readResource (source : Source) (deeper : Option Reader) : Reader := fun resource loading =>
  match source.read resource with
  | .error fault => .failed (.unreadable resource fault)
  | .ok bytes => do
      let entries := (Layout.lines (Utf8.lossyChars bytes)).zipIdx 1
      let loaded ← entries.foldlM (stepText source deeper resource) loading
      return loaded.remark (.finished resource loaded.dictionary.size)

/-- Read a resource whose includes may go `depth` deeper. -/
def readTo (source : Source) : (depth : Nat) → Reader
  | 0         => readResource source none
  | depth + 1 => readResource source (some (readTo source depth))

/-- Read a resource, and all it includes, into a dictionary. -/
def load (dictionary : Dictionary) (source : Source) (resource : String) :
    Raw DictionaryError Loading :=
  readTo source maxIncludeDepth resource ⟨dictionary, []⟩

/-! ## Every line leaves the tables in order -/

/-- From a dictionary whose tables are in order, reading comes to what another reading comes to, and
the tables of that are in order again. -/
def Reader.Refines (read : Reader) (reads : Loading.Reader) : Prop :=
  ∀ resource (loading : Loading), loading.dictionary.Indexed →
    read resource loading = ofExcept (reads resource loading) ∧
      ∀ loaded, reads resource loading = .ok loaded → loaded.dictionary.Indexed

section

variable {source : Source} {deeper : Option Reader} {deeper' : Option Loading.Reader}
  (hdeeper : Option.Rel Reader.Refines deeper deeper')
include hdeeper

theorem follow_eq (resource : String) (number : Nat) (target : String) {loading : Loading}
    (h : loading.dictionary.Indexed) :
    follow source deeper resource number target loading =
        .done (loading.follow source deeper' resource number target) ∧
      (loading.follow source deeper' resource number target).dictionary.Indexed := by
  cases hdeeper with
  | none => exact ⟨rfl, h⟩
  | @some read reads hread =>
      unfold follow Loading.follow
      cases source.resolve resource target with
      | none => exact ⟨rfl, h⟩
      | some found =>
          obtain ⟨hrefines, hloaded⟩ := hread found loading h
          dsimp only
          rw [hrefines, attempt_ofExcept, done_bind]
          cases hreads : reads found loading with
          | error fault => exact ⟨rfl, h⟩
          | ok loaded => exact ⟨rfl, hloaded loaded hreads⟩

theorem step_eq (resource : String) {loading : Loading} (h : loading.dictionary.Indexed)
    (line : Line) (hwords : line.tokens ≠ []) :
    step source deeper resource loading line =
        .done (loading.step source deeper' resource line) ∧
      (loading.step source deeper' resource line).dictionary.Indexed := by
  obtain ⟨number, tokens⟩ := line
  cases tokens with
  | nil => exact absurd rfl hwords
  | cons first words =>
      have hkeyword : String.ofList (Layout.upper first.toList) =
          Line.keyword ⟨number, first :: words⟩ := rfl
      unfold step Loading.step
      rw [item_of_getElem? rfl, done_bind]
      dsimp only
      rw [hkeyword]
      cases Directive.ofKeyword? (Line.keyword ⟨number, first :: words⟩) with
      | none => exact ⟨rfl, h⟩
      | some directive =>
          dsimp only
          have hremarked : (loading.remarkTrailing resource ⟨number, first :: words⟩
              directive).dictionary.Indexed := by rwa [Loading.dictionary_remarkTrailing]
          generalize loading.remarkTrailing resource ⟨number, first :: words⟩ directive = remarked
            at hremarked ⊢
          rw [statement_eq, attempt_ofExcept, done_bind]
          cases Statement.ofTokens directive (first :: words) with
          | error fault => exact ⟨rfl, hremarked⟩
          | ok statement =>
              cases statement with
              | inclusion target => exact follow_eq hdeeper resource number target hremarked
              | define | label | nameVendor =>
                  dsimp only
                  rw [apply_eq hremarked, attempt_ofExcept, done_bind]
                  cases hextended : Statement.apply remarked.dictionary _ with
                  | error fault => exact ⟨rfl, hremarked⟩
                  | ok extended => exact ⟨rfl, hremarked.add hextended⟩

/-- Lines are carried out one after the other, and from first to last the tables are in order. -/
theorem foldlM_stepText (resource : String) {loading : Loading} (h : loading.dictionary.Indexed)
    (entries : List (List Char × Nat)) :
    entries.foldlM (stepText source deeper resource) loading =
        .done ((entries.filterMap Line.ofEntry).foldl (Loading.step source deeper' resource)
          loading) ∧
      ((entries.filterMap Line.ofEntry).foldl (Loading.step source deeper' resource)
        loading).dictionary.Indexed := by
  induction entries generalizing loading with
  | nil => exact ⟨rfl, h⟩
  | cons entry later ih =>
      rw [List.foldlM_cons, List.filterMap_cons]
      by_cases htokens : Line.tokensOf entry.1 = []
      · rw [stepText_of_nil htokens, done_bind, Line.ofEntry_of_nil htokens]
        exact ih h
      · obtain ⟨hdone, hindexed⟩ := step_eq hdeeper resource h
          ⟨entry.2, Line.tokensOf entry.1⟩ htokens
        rw [stepText_of_ne_nil htokens, hdone, done_bind, Line.ofEntry_of_ne_nil htokens]
        exact ih hindexed

/-- Every resource is read to its end. -/
theorem refines_readResource :
    (readResource source deeper).Refines (Loading.readResource source deeper') := by
  intro resource loading h
  unfold readResource Loading.readResource
  cases source.read resource with
  | error fault => exact ⟨rfl, fun loaded hloaded => nomatch hloaded⟩
  | ok bytes =>
      obtain ⟨hdone, hindexed⟩ := foldlM_stepText hdeeper resource h
        ((Layout.lines (Utf8.lossyChars bytes)).zipIdx 1)
      dsimp only
      rw [hdone, done_bind, Line.ofText_eq]
      refine ⟨rfl, fun loaded hloaded => ?_⟩
      cases hloaded
      exact hindexed

end

theorem refines_readTo (source : Source) (depth : Nat) :
    (readTo source depth).Refines (Loading.readTo source depth) := by
  induction depth with
  | zero => exact refines_readResource .none
  | succ depth ih => exact refines_readResource (.some ih)

theorem load_eq {dictionary : Dictionary} (h : dictionary.Indexed) (source : Source)
    (resource : String) :
    load dictionary source resource = ofExcept (dictionary.load source resource) :=
  (refines_readTo source maxIncludeDepth resource ⟨dictionary, []⟩ h).1

end Raw
end Radius
