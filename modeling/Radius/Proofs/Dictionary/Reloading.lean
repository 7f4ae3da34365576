-- SUMMARY: Loading a resource again: the third time changes nothing, and the second time changes nothing if the first met no label for an unknown type.
import Radius.Proofs.Dictionary.Openings
import Radius.Proofs.Dictionary.Repetition

/-!
# Loading again

Loading carries out the same statements every time, so what is known of these tells what a resource
does that is loaded, or included, again. Whether a label was for a type that there was not can be
told by the remarks: for each statement that fails there is a warning with its fault, however deep
the resource is included in which it stands.
-/

namespace Radius

/-! ## Faults are remarked -/

namespace Loading

/-- The remarks made since another loading was under way tell the faults of these statements. -/
def Reports (statements : List Statement) (before after : Loading) : Prop :=
  ∃ news, after.journal = news ++ before.journal ∧
    ∀ fault ∈ before.dictionary.faults statements, ∃ warning,
      .warning warning ∈ news ∧ warning.cause = .skipped fault

theorem Reports.refl (loading : Loading) : Reports [] loading loading :=
  ⟨[], rfl, List.forall_mem_nil _⟩

section

variable {front back statements : List Statement} {before between after : Loading}

theorem Reports.remark (h : Reports statements before after) (remark : LoadRemark) :
    Reports statements before (after.remark remark) := by
  obtain ⟨news, hnews, hfaults⟩ := h
  refine ⟨remark :: news, by rw [Loading.remark, hnews]; rfl, fun fault hfault => ?_⟩
  obtain ⟨warning, hmem, hcause⟩ := hfaults fault hfault
  exact ⟨warning, List.mem_cons_of_mem _ hmem, hcause⟩

theorem Reports.remarkTrailing (h : Reports statements before after) (resource : String)
    (line : Line) (directive : Directive) :
    Reports statements before (after.remarkTrailing resource line directive) := by
  unfold Loading.remarkTrailing
  split
  · exact h.remark _
  · exact h

theorem Reports.append (hfront : Reports front before between)
    (hbetween : between.dictionary = before.dictionary.perform front)
    (hback : Reports back between after) : Reports (front ++ back) before after := by
  obtain ⟨news, hnews, hfaults⟩ := hfront
  obtain ⟨news', hnews', hfaults'⟩ := hback
  refine ⟨news' ++ news, by rw [hnews', hnews, List.append_assoc], fun fault hfault => ?_⟩
  rw [Dictionary.faults_append, ← hbetween] at hfault
  rcases List.mem_append.mp hfault with hmem | hmem
  · obtain ⟨warning, hwarning, hcause⟩ := hfaults fault hmem
    exact ⟨warning, List.mem_append_right _ hwarning, hcause⟩
  · obtain ⟨warning, hwarning, hcause⟩ := hfaults' fault hmem
    exact ⟨warning, List.mem_append_left _ hwarning, hcause⟩

/-- Reading a resource so many levels above the deepest reports the faults of the statements that it
stands for. -/
def ReportsAt (source : Source) (levels : Nat) : Prop :=
  ∀ resource loading loaded, readTo source levels resource loading = .ok loaded →
    Reports (Line.statements ((source.expand levels resource).getD [])) loading loaded

/-- A statement that fails is reported by the warning that it leaves. -/
theorem Reports.apply (h : Reports [] before after) (hsame : after.dictionary = before.dictionary)
    (resource : String) (number : Nat) (statement : Statement) :
    Reports [statement] before
      (match statement.apply after.dictionary with
      | .ok dictionary => { after with dictionary := dictionary }
      | .error fault   => after.warn resource number (.skipped fault)) := by
  obtain ⟨news, hnews, -⟩ := h
  rw [hsame]
  cases hextended : statement.apply before.dictionary with
  | ok extended =>
      refine ⟨news, hnews, fun fault hfault => ?_⟩
      simp only [Dictionary.faults, hextended] at hfault
      cases hfault
  | error fault =>
      refine ⟨.warning ⟨resource, number, .skipped fault⟩ :: news, congrArg (_ :: ·) hnews,
        fun other hother => ?_⟩
      simp only [Dictionary.faults, hextended, List.mem_singleton] at hother
      subst hother
      exact ⟨_, List.mem_cons_self, rfl⟩

end

section

variable {source : Source} {levels : Nat}
  (hbelow : ∀ below, levels = below + 1 → ReportsAt source below)
include hbelow

theorem reports_follow (resource : String) (number : Nat) (target : String)
    (loading : Loading) :
    Reports (Line.statements (((source.expander? levels).bind (fun expand =>
        (source.resolve resource target).bind expand)).getD [])) loading
      (follow source (reader? source levels) resource number target loading) := by
  cases levels with
  | zero => exact (Reports.refl loading).remark _
  | succ below =>
      simp only [reader?, follow, Source.expander?, Option.bind_some]
      cases hfound : source.resolve resource target with
      | none => exact (Reports.refl loading).remark _
      | some found =>
          simp only [Option.bind_some]
          cases hread : readTo source below found loading with
          | ok loaded => exact hbelow below rfl found loading loaded hread
          | error fault =>
              rw [expand_of_readTo_error hread]
              exact (Reports.refl loading).remark _

/-- A line reports the faults of the statements that it stands for. -/
theorem reports_step (resource : String) (number : Nat) (text : List Char) (loading : Loading) :
    Reports (Line.statements (source.expandLine (source.expander? levels) resource text)) loading
      (step source (reader? source levels) resource loading ⟨number, Line.tokensOf text⟩) := by
  have hremarked (directive : Directive) := (Reports.refl loading).remarkTrailing resource
    ⟨number, Line.tokensOf text⟩ directive
  have hsteps := steps_step source (reader? source levels) resource number text loading
  generalize step source (reader? source levels) resource loading _ = after at hsteps ⊢
  cases hsteps with
  | unknown cause hnone =>
      rw [Line.statements_expandLine (Line.inclusion?_of_none hnone), hnone]
      exact (Reports.refl loading).remark _
  | refused directive cause hnone =>
      rw [Line.statements_expandLine (Line.inclusion?_of_none hnone), hnone]
      exact (hremarked directive).remark _
  | includes directive target hsome =>
      rw [Line.expandLine_of_inclusion (Line.inclusion?_of_some hsome)]
      exact (hremarked directive).append (dictionary_remarkTrailing ..)
        (reports_follow hbelow resource number target _)
  | states directive statement hsome hplain =>
      rw [Line.statements_expandLine hplain, hsome]
      exact (hremarked directive).apply (dictionary_remarkTrailing ..) resource number statement

theorem reports_readLines (resource : String) (number : Nat) (lines : List (List Char))
    (loading : Loading) :
    Reports (Line.statements
        (lines.flatMap (source.expandLine (source.expander? levels) resource))) loading
      (readLines source levels resource number lines loading) := by
  induction lines generalizing number loading with
  | nil => exact .refl loading
  | cons line later ih =>
      have hline : Reports
          (Line.statements (source.expandLine (source.expander? levels) resource line)) loading
          (readLines source levels resource number [line] loading) := by
        by_cases hblank : Line.tokensOf line = []
        · have hstatement := Line.statement?_of_blank hblank
          rw [readLines_of_blank _ _ _ _ _ hblank,
            Line.statements_expandLine (by rw [Line.inclusion?, hstatement]), hstatement]
          exact .refl loading
        · rw [readLines_of_words _ _ _ _ _ hblank]
          exact reports_step hbelow resource number line loading
      rw [List.flatMap_cons, Line.statements_append, readLines_cons]
      refine hline.append ?_ (ih (number + 1) _)
      rw [dictionary_readLines, List.flatMap_singleton]

omit hbelow in
theorem reportsAt (source : Source) (levels : Nat) : ReportsAt source levels := by
  induction levels using Nat.strongRecOn with
  | ind levels ih =>
      intro resource loading loaded h
      rw [readTo_eq, readResource] at h
      split at h
      · cases h
      rename_i bytes hbytes
      cases h
      have hlines : source.lines? resource = some (Layout.lines (Utf8.lossyChars bytes)) := by
        rw [Source.lines?, hbytes]
        rfl
      have hbelow : ∀ below, levels = below + 1 → ReportsAt source below :=
        fun below hlevels => ih below (by omega)
      have hreports := reports_readLines hbelow resource 1 (Layout.lines (Utf8.lossyChars bytes))
        loading
      rw [Source.expand_eq, hlines, Option.map_some, Option.getD_some]
      exact hreports.remark _

end

theorem reports_line (source : Source) (levels : Nat) (resource : String) (number : Nat)
    (line : List Char) (loading : Loading) :
    Reports (Line.statements (source.expandLine (source.expander? levels) resource line)) loading
      (readLines source levels resource number [line] loading) := by
  have hlines := reports_readLines (fun below (_ : levels = below + 1) => reportsAt source below)
    resource number [line] loading
  rwa [List.flatMap_singleton] at hlines

theorem since_of_append {before after : Loading} {news : List LoadRemark}
    (h : after.journal = news ++ before.journal) : after.since before = news := by
  simp [since, h]

end Loading

/-- A label has been passed over since no type has the name. -/
def LoadRemark.isUnknownAttribute : LoadRemark → Bool
  | .warning ⟨_, _, .skipped (.unknownAttribute _)⟩ => true
  | _                                               => false

/-- Where no such remark is made, every label was for a type that there was. -/
theorem Loading.Reports.knowsAll {statements : List Statement} {before after : Loading}
    (h : Reports statements before after)
    (hknown : ∀ remark ∈ after.since before, ¬ remark.isUnknownAttribute) :
    before.dictionary.KnowsAll statements := by
  obtain ⟨news, hnews, hfaults⟩ := h
  rw [since_of_append hnews] at hknown
  intro name hfault
  obtain ⟨⟨resource, line, cause⟩, hmem, hcause⟩ := hfaults _ hfault
  cases hcause
  exact hknown _ hmem rfl

/-! ## Loading again -/

namespace Dictionary

/-- The dictionary that loading a resource leaves. -/
def loaded (source : Source) (resource : String) (dictionary : Dictionary) : Dictionary :=
  (Update.outcome (Update.load source resource) dictionary).2

theorem loaded_eq (source : Source) (resource : String) (dictionary : Dictionary) :
    loaded source resource dictionary =
      dictionary.perform (Line.statements ((source.expand maxIncludeDepth resource).getD [])) := by
  rw [loaded, Update.outcome_load]
  cases hload : dictionary.load source resource with
  | ok loading =>
      obtain ⟨lines, hlines, hperformed⟩ := dictionary_of_load hload
      rw [hlines, Option.getD_some, ← hperformed]
      rfl
  | error fault =>
      rw [Loading.expand_of_readTo_error hload]
      rfl

/-- A load in which every label was for a type that there was has carried such statements out. -/
theorem knowsAll_of_load {dictionary : Dictionary} {source : Source} {resource : String}
    (hknown : ∀ loading, dictionary.load source resource = .ok loading →
      ∀ remark ∈ loading.remarks, ¬ remark.isUnknownAttribute) :
    dictionary.KnowsAll
      (Line.statements ((source.expand maxIncludeDepth resource).getD [])) := by
  cases hload : dictionary.load source resource with
  | ok loading =>
      have hreports := Loading.reportsAt source maxIncludeDepth resource _ _ hload
      refine hreports.knowsAll fun remark hmem => hknown loading hload remark ?_
      rw [Loading.since_of_append (List.append_nil _).symm] at hmem
      exact List.mem_reverse.mpr hmem
  | error fault =>
      rw [Loading.expand_of_readTo_error hload]
      exact fun _ => List.not_mem_nil

end Dictionary

/-- Of two lines that include the same resource the second does nothing if every label that was read
by the first was for a type that there was. -/
theorem Opening.dictionary_of_included_again {source : Source} {opening : Opening}
    {before : List (List Char)} {first second : List Char} {found : String}
    (hindexed : opening.loading.dictionary.Indexed)
    (hfirst : (Line.inclusion? first).bind (source.resolve opening.resource) = some found)
    (hsecond : (Line.inclusion? second).bind (source.resolve opening.resource) = some found)
    (hknown : ∀ remark ∈ (opening.through source (before ++ [first])).since
      (opening.through source before), ¬ remark.isUnknownAttribute) :
    (opening.through source ((before ++ [first]) ++ [second])).dictionary =
      (opening.through source (before ++ [first])).dictionary := by
  have hbefore : (opening.through source before).dictionary.Indexed := by
    rw [through, Loading.dictionary_readLines]
    exact hindexed.perform _
  rw [through_concat] at hknown
  have hlabels := (Loading.reports_line source opening.levels opening.resource
    (1 + before.length) first (opening.through source before)).knowsAll hknown
  rw [Line.expandLine_of_found hfirst] at hlabels
  rw [through_concat, through_concat, Loading.dictionary_readLines, Loading.dictionary_readLines,
    List.flatMap_singleton, List.flatMap_singleton, Line.expandLine_of_found hfirst,
    Line.expandLine_of_found hsecond]
  exact hlabels.perform_again hbefore

namespace Dictionary

/-- Loading again settles. The third time nothing changes, and the second time nothing changes if
the first has passed over no label for an unknown type. And of two lines of a text, one behind the
other, that include the same resource the second can be left out: loading comes to the same, if the
first passes over no label for an unknown type in any opening of the text. -/
theorem reloading_settles {dictionary : Dictionary} (h : Built dictionary) (resources : Resources)
    (top : String) :
    let once := loaded resources.source top dictionary
    let twice := loaded resources.source top once
    loaded resources.source top twice = twice ∧
    ((∀ loading, dictionary.load resources.source top = .ok loading →
        ∀ remark ∈ loading.remarks, ¬ remark.isUnknownAttribute) →
      twice = once) ∧
    ∀ name text shorter before first second after found, resources.find? name = some text →
      Layout.lines text.toList = before ++ first :: second :: after →
      Layout.lines shorter.toList = before ++ first :: after →
      (Line.inclusion? first).bind (resources.source.resolve name) = some found →
      (Line.inclusion? second).bind (resources.source.resolve name) = some found →
      (∀ opening ∈ Loading.openings resources.source maxIncludeDepth top ⟨dictionary, []⟩,
        opening.resource = name →
        ∀ remark ∈ (opening.through resources.source (before ++ [first])).since
          (opening.through resources.source before), ¬ remark.isUnknownAttribute) →
      Update.outcome (Update.load (Resources.source (resources.insert name shorter)) top)
          dictionary =
        Update.outcome (Update.load resources.source top) dictionary := by
  refine ⟨?_, fun hknown => ?_, ?_⟩
  · simp only [loaded_eq]
    exact h.indexed.perform_settles _
  · simp only [loaded_eq]
    exact (knowsAll_of_load hknown).perform_again h.indexed
  · intro name text shorter before first second after found htext hlines hshorter hfirst hsecond
      hknown
    have hlong : Layout.lines text.toList = (before ++ [first]) ++ second :: after := by
      rw [hlines, List.append_assoc, List.singleton_append]
    have hshort : Layout.lines shorter.toList = (before ++ [first]) ++ after := by
      rw [hshorter, List.append_assoc, List.singleton_append]
    refine Resources.outcome_load_insert htext hlong hshort fun opening hopening hname => ?_
    obtain ⟨statements, hstatements⟩ := Loading.exists_perform_of_mem_openings hopening
    have hindexed : opening.loading.dictionary.Indexed :=
      hstatements ▸ h.indexed.perform statements
    have hopened := hknown opening hopening hname
    subst hname
    exact Opening.dictionary_of_included_again hindexed hfirst hsecond hopened

/-- A label before its type, and a resource that includes another one twice. -/
def Sample.repeating : Resources := Table.ofList
  [("early", Line.textOf (
    ["VALUE Port Slow 1",
      "ATTRIBUTE Port 5 integer"].map String.toList)),
   ("twice", Line.textOf (
    ["$INCLUDE port",
      "$include ./port",
      "VALUE Port Slow 1"].map String.toList)),
   ("port", Line.textOf (
    ["ATTRIBUTE Port 5 integer",
      "VALUE Port Fast 1"].map String.toList))]

def Sample.once : String := Line.textOf (["$INCLUDE port", "VALUE Port Slow 1"].map String.toList)

theorem sample_reloading_settles :
    let source := Sample.repeating.source
    let once := loaded source "early" empty
    let twice := loaded source "early" once
    (twice ≠ once ∧ loaded source "early" twice = twice) ∧
    loaded source "twice" (loaded source "twice" empty) = loaded source "twice" empty ∧
    Update.outcome (Update.load (Resources.source (Sample.repeating.insert "twice" Sample.once))
        "twice") empty =
      Update.outcome (Update.load source "twice") empty := by
  have hknown : (empty.load Sample.repeating.source "twice").toOption.all
      (fun loading => loading.remarks.all (fun remark => !remark.isUnknownAttribute)) := by
    decide +kernel
  refine ⟨⟨by decide +kernel, ?_⟩, ?_, ?_⟩
  · exact (reloading_settles .empty Sample.repeating "early").1
  · refine (reloading_settles .empty Sample.repeating "twice").2.1 fun loading hloading => ?_
    rw [hloading] at hknown
    simpa [Except.toOption] using hknown
  · exact (reloading_settles .empty Sample.repeating "twice").2.2 "twice" _ Sample.once []
      "$INCLUDE port".toList "$include ./port".toList ["VALUE Port Slow 1".toList] "port" rfl
      (by decide +kernel) (by decide +kernel) (by decide +kernel) (by decide +kernel)
      (by decide +kernel)

end Dictionary
end Radius
