-- SUMMARY: The lines that a resource stands for, with those of included resources in the places of the includes; loading carries out their statements one after the other.
import Radius.Dictionary.Load
import Radius.Proofs.Outcome

/-!
# Expanding includes

An include stands for the lines of the resource it means. With all includes replaced so, down to a
number of levels, a resource is one list of lines in which no include is left. What loading makes of
a dictionary is what the statements of these lines make of it in turn, each on what the ones
before it left: nothing else passes between a resource and what it includes.
-/

namespace Radius

/-! ## What a line says -/

namespace Line

/-- The text of lines, with a line feed behind each. -/
def textOf (lines : List (List Char)) : String := String.ofList (lines.flatMap (· ++ ['\n']))

/-- The directive of a line; none for a blank line, a comment, and an unknown word. -/
def directive? (line : List Char) : Option Directive :=
  Directive.ofKeyword? (keyword ⟨0, tokensOf line⟩)

def isInclusion (line : List Char) : Bool := directive? line = some .inclusion

/-- The statement of a line, unless words are missing or wrong. -/
def statement? (line : List Char) : Option Statement :=
  (directive? line).bind (fun directive =>
    (Statement.ofTokens directive (tokensOf line)).toOption)

/-- The resource that a line includes. -/
def inclusion? (line : List Char) : Option String :=
  match statement? line with
  | some (.inclusion target) => some target
  | _                        => none

/-- The statements of lines, in their order. -/
def statements (lines : List (List Char)) : List Statement := lines.filterMap statement?

@[simp] theorem statements_nil : statements [] = [] := rfl

@[simp] theorem statements_append (front back : List (List Char)) :
    statements (front ++ back) = statements front ++ statements back :=
  List.filterMap_append

theorem statements_cons (line : List Char) (later : List (List Char)) :
    statements (line :: later) = (statement? line).toList ++ statements later := by
  cases hline : statement? line <;> simp [statements, hline]

/-- The words of a line with its number; none for a line that says nothing. -/
def ofEntry (entry : List Char × Nat) : Option Line :=
  match tokensOf entry.1 with
  | []     => none
  | tokens => some ⟨entry.2, tokens⟩

theorem ofText_eq (text : List Char) :
    ofText text = ((Layout.lines text).zipIdx 1).filterMap ofEntry := rfl

theorem directive?_of_blank {line : List Char} (h : tokensOf line = []) : directive? line = none := by
  rw [directive?, h]
  rfl

theorem statement?_of_blank {line : List Char} (h : tokensOf line = []) : statement? line = none := by
  rw [statement?, directive?_of_blank h]
  rfl

theorem isInclusion_of_blank {line : List Char} (h : tokensOf line = []) : isInclusion line = false := by
  rw [isInclusion, directive?_of_blank h]
  rfl

end Line

/-- An inclusion is what the directive for it says, and no other directive does. -/
theorem Statement.isInclusion_of_ofTokens {directive : Directive} {tokens : List String}
    {statement : Statement} (h : Statement.ofTokens directive tokens = .ok statement) :
    directive = .inclusion ↔ ∃ target, statement = .inclusion target := by
  unfold ofTokens at h
  split at h
  · obtain ⟨code, -, ⟨⟩⟩ := Except.bind_eq_ok_iff.mp h
    simp
  · obtain ⟨value, -, ⟨⟩⟩ := Except.bind_eq_ok_iff.mp h
    simp
  · obtain ⟨vendor, -, h⟩ := Except.bind_eq_ok_iff.mp h
    obtain ⟨code, -, ⟨⟩⟩ := Except.bind_eq_ok_iff.mp h
    simp
  · obtain ⟨vendor, -, ⟨⟩⟩ := Except.bind_eq_ok_iff.mp h
    simp
  · cases h
    simp
  · cases h

/-- A keyword names no kind for containers. -/
theorem Kind.ofTypeName_ne (name : String) : Kind.ofTypeName name ≠ .vendorSpecific := by
  unfold ofTypeName
  split <;> simp

/-- A definition that is written in words is of a kind for values and has no labels yet. -/
theorem Statement.plain_of_ofTokens {directive : Directive} {tokens : List String}
    {definition : AttributeDefinition}
    (h : Statement.ofTokens directive tokens = .ok (.define definition)) :
    definition.kind ≠ .vendorSpecific ∧ definition.labels = [] := by
  unfold ofTokens at h
  split at h
  · obtain ⟨code, -, ⟨⟩⟩ := Except.bind_eq_ok_iff.mp h
    exact ⟨Kind.ofTypeName_ne _, rfl⟩
  · obtain ⟨value, -, ⟨⟩⟩ := Except.bind_eq_ok_iff.mp h
  · obtain ⟨vendor, -, h⟩ := Except.bind_eq_ok_iff.mp h
    obtain ⟨code, -, ⟨⟩⟩ := Except.bind_eq_ok_iff.mp h
    exact ⟨Kind.ofTypeName_ne _, rfl⟩
  · obtain ⟨vendor, -, ⟨⟩⟩ := Except.bind_eq_ok_iff.mp h
  · cases h
  · cases h

theorem Line.statement?_eq_some_iff {line : List Char} {statement : Statement} :
    statement? line = some statement ↔
      ∃ directive, directive? line = some directive ∧
        Statement.ofTokens directive (tokensOf line) = .ok statement := by
  simp only [statement?, Option.bind_eq_some_iff, Except.toOption_eq_some_iff]

theorem Line.plain_of_mem_statements {lines : List (List Char)} {definition : AttributeDefinition}
    (h : .define definition ∈ Line.statements lines) :
    definition.kind ≠ .vendorSpecific ∧ definition.labels = [] := by
  obtain ⟨line, -, hline⟩ := List.mem_filterMap.mp h
  obtain ⟨directive, -, htokens⟩ := Line.statement?_eq_some_iff.mp hline
  exact Statement.plain_of_ofTokens htokens

theorem Line.inclusion?_of_none {line : List Char} (h : statement? line = none) :
    inclusion? line = none := by
  rw [inclusion?, h]

theorem Line.inclusion?_of_some {line : List Char} {target : String}
    (h : statement? line = some (.inclusion target)) : inclusion? line = some target := by
  rw [inclusion?, h]

theorem Line.isInclusion_of_inclusion? {line : List Char} {target : String}
    (h : inclusion? line = some target) : isInclusion line = true := by
  unfold inclusion? at h
  split at h
  · rename_i found hstatement
    obtain ⟨directive, hdirective, htokens⟩ := statement?_eq_some_iff.mp hstatement
    rw [isInclusion, hdirective, (Statement.isInclusion_of_ofTokens htokens).mpr ⟨found, rfl⟩]
    rfl
  · cases h

/-! ## Carrying statements out -/

namespace Dictionary

/-- The dictionary after a statement; one that fails changes nothing. -/
def carryOut (dictionary : Dictionary) (statement : Statement) : Dictionary :=
  match statement.apply dictionary with
  | .ok extended => extended
  | .error _     => dictionary

theorem carryOut_of_ok {dictionary extended : Dictionary} {statement : Statement}
    (h : statement.apply dictionary = .ok extended) : dictionary.carryOut statement = extended := by
  rw [carryOut, h]

theorem carryOut_of_error {dictionary : Dictionary} {statement : Statement} {fault : DictionaryError}
    (h : statement.apply dictionary = .error fault) : dictionary.carryOut statement = dictionary := by
  rw [carryOut, h]

/-- The dictionary after statements. -/
def perform (dictionary : Dictionary) (statements : List Statement) : Dictionary :=
  statements.foldl carryOut dictionary

@[simp] theorem perform_nil (dictionary : Dictionary) : dictionary.perform [] = dictionary := rfl

@[simp] theorem perform_cons (dictionary : Dictionary) (statement : Statement)
    (later : List Statement) :
    dictionary.perform (statement :: later) = (dictionary.carryOut statement).perform later := rfl

theorem perform_append (dictionary : Dictionary) (front back : List Statement) :
    dictionary.perform (front ++ back) = (dictionary.perform front).perform back :=
  List.foldl_append

/-- What every statement of a list keeps, the whole list keeps. -/
theorem perform_keeps {P : Dictionary → Prop} {statements : List Statement}
    (hadd : ∀ statement ∈ statements, ∀ dictionary extended, P dictionary →
      Statement.apply dictionary statement = .ok extended → P extended)
    {dictionary : Dictionary} (h : P dictionary) : P (dictionary.perform statements) := by
  refine List.foldlRecOn (motive := P) statements carryOut h ?_
  intro dictionary hdictionary statement hstatement
  cases hextended : statement.apply dictionary with
  | ok extended =>
      rw [carryOut_of_ok hextended]
      exact hadd statement hstatement _ _ hdictionary hextended
  | error fault =>
      rw [carryOut_of_error hextended]
      exact hdictionary

end Dictionary

/-! ## Expansion -/

namespace Source

/-- Gives the lines that a resource stands for, if it can be read. -/
abbrev Expander := (resource : String) → Option (List (List Char))

/-- The lines of a resource; none if it cannot be read. -/
def lines? (source : Source) (resource : String) : Option (List (List Char)) :=
  (source.read resource).toOption.map (fun bytes => Layout.lines (Utf8.lossyChars bytes))

/-- The lines that one line of a resource stands for. An include stands for those of the resource it
means; it is dropped where it is too deep, lacks its name, or means nothing that can be read. -/
def expandLine (source : Source) (deeper : Option Expander)
    (resource : String) (line : List Char) : List (List Char) :=
  if Line.isInclusion line then
    ((Line.inclusion? line).bind (fun target =>
      deeper.bind (fun expand => (source.resolve resource target).bind expand))).getD []
  else [line]

/-- The lines that a resource stands for, with includes replaced so many levels deep. -/
def expand (source : Source) : (levels : Nat) → Expander
  | 0,          resource => (source.lines? resource).map (·.flatMap (source.expandLine none resource))
  | levels + 1, resource =>
      (source.lines? resource).map (·.flatMap (source.expandLine (some (expand source levels)) resource))

variable {source : Source}

theorem expandLine_of_plain {deeper : Option Expander} {resource : String}
    {line : List Char} (h : Line.isInclusion line = false) :
    source.expandLine deeper resource line = [line] := by
  simp [expandLine, h]

end Source

namespace Line

/-- A line that is no include stands for its own statement, if it makes one. -/
theorem statements_expandLine {source : Source} {deeper : Option Source.Expander}
    {resource : String} {line : List Char} (h : inclusion? line = none) :
    statements (source.expandLine deeper resource line) = (statement? line).toList := by
  have hstatement : statements [line] = (statement? line).toList := by
    cases hstatement : statement? line <;> simp [statements, hstatement]
  unfold Source.expandLine
  split
  · rename_i hinclusion
    -- An include that names no resource is no statement at all.
    cases hline : statement? line with
    | none => simp [h]
    | some statement =>
        obtain ⟨directive, hdirective, htokens⟩ := statement?_eq_some_iff.mp hline
        rw [isInclusion, hdirective, decide_eq_true_eq, Option.some.injEq,
          Statement.isInclusion_of_ofTokens htokens] at hinclusion
        obtain ⟨target, rfl⟩ := hinclusion
        rw [inclusion?, hline] at h
        cases h
  · exact hstatement

theorem expandLine_of_inclusion {source : Source} {deeper : Option Source.Expander}
    {resource target : String} {line : List Char} (h : inclusion? line = some target) :
    source.expandLine deeper resource line =
      (deeper.bind (fun expand => (source.resolve resource target).bind expand)).getD [] := by
  rw [Source.expandLine, if_pos (isInclusion_of_inclusion? h), h, Option.bind_some]

theorem expandLine_of_found {source : Source} {deeper : Option Source.Expander}
    {resource found : String} {line : List Char}
    (h : (inclusion? line).bind (source.resolve resource) = some found) :
    source.expandLine deeper resource line = (deeper.bind (· found)).getD [] := by
  obtain ⟨target, htarget, hresolve⟩ := Option.bind_eq_some_iff.mp h
  simp only [expandLine_of_inclusion htarget, hresolve, Option.bind_some]

end Line

/-- Resources that include others, one that is missing, and themselves, by relative names. -/
def Dictionary.Sample.resources : Resources := Table.ofList
  [("main", Line.textOf (
    ["ATTRIBUTE Port 5 integer",
      "VALUE Port Slow 1",
      "$INCLUDE vendor/acme",
      "$INCLUDE none",
      "VALUE Port Fast 1"].map String.toList)),
   ("vendor/acme", Line.textOf (
    ["VENDOR 9 Acme",
      "VENDORATTR 9 Role 1 string",
      "$include ../door"].map String.toList)),
   ("door", Line.textOf ["ATTRIBUTE Door 5 string".toList]),
   ("loop", Line.textOf (
    ["ATTRIBUTE First 1 string",
      "$INCLUDE ./loop",
      "ATTRIBUTE Last 2 string"].map String.toList))]

/-! ## Loading carries out what is expanded -/

namespace Loading

@[simp] theorem dictionary_warn (loading : Loading) (resource : String) (line : Nat)
    (cause : LoadWarning.Cause) :
    (loading.warn resource line cause).dictionary = loading.dictionary := rfl

@[simp] theorem dictionary_remark (loading : Loading) (remark : LoadRemark) :
    (loading.remark remark).dictionary = loading.dictionary := rfl

@[simp] theorem dictionary_remarkTrailing (resource : String) (line : Line) (directive : Directive)
    (loading : Loading) :
    (remarkTrailing resource line directive loading).dictionary = loading.dictionary := by
  unfold remarkTrailing
  split <;> rfl

/-- What becomes of a loading at a line. -/
inductive Steps (source : Source) (deeper : Option Reader) (resource : String) (number : Nat)
    (text : List Char) (loading : Loading) : (after : Loading) → Prop
  | unknown (cause : LoadWarning.Cause) : Line.statement? text = none →
      Steps source deeper resource number text loading (loading.warn resource number cause)
  | refused (directive : Directive) (cause : LoadWarning.Cause) : Line.statement? text = none →
      Steps source deeper resource number text loading
        ((loading.remarkTrailing resource ⟨number, Line.tokensOf text⟩ directive).warn resource
          number cause)
  | includes (directive : Directive) (target : String) :
      Line.statement? text = some (.inclusion target) →
      Steps source deeper resource number text loading
        (follow source deeper resource number target
          (loading.remarkTrailing resource ⟨number, Line.tokensOf text⟩ directive))
  | states (directive : Directive) (statement : Statement) :
      Line.statement? text = some statement → Line.inclusion? text = none →
      Steps source deeper resource number text loading
        (let remarked := loading.remarkTrailing resource ⟨number, Line.tokensOf text⟩ directive
        match statement.apply remarked.dictionary with
        | .ok dictionary => { remarked with dictionary := dictionary }
        | .error fault   => remarked.warn resource number (.skipped fault))

theorem steps_step (source : Source) (deeper : Option Reader) (resource : String) (number : Nat)
    (text : List Char) (loading : Loading) :
    Steps source deeper resource number text loading
      (step source deeper resource loading ⟨number, Line.tokensOf text⟩) := by
  have hkeyword : Directive.ofKeyword? (Line.keyword ⟨number, Line.tokensOf text⟩) =
      Line.directive? text := rfl
  unfold step
  rw [hkeyword]
  cases hdirective : Line.directive? text with
  | none => exact .unknown _ (by rw [Line.statement?, hdirective]; rfl)
  | some directive =>
      have hstatement? : Line.statement? text =
          (Statement.ofTokens directive (Line.tokensOf text)).toOption := by
        rw [Line.statement?, hdirective, Option.bind_some]
      dsimp only
      cases hstatement : Statement.ofTokens directive (Line.tokensOf text) with
      | error fault =>
          rw [hstatement, Except.toOption] at hstatement?
          exact .refused directive _ hstatement?
      | ok statement =>
          rw [hstatement, Except.toOption] at hstatement?
          cases statement with
          | inclusion target => exact .includes directive target hstatement?
          | define | label | nameVendor =>
              exact .states directive _ hstatement? (by rw [Line.inclusion?, hstatement?])

/-- Reading a resource carries out the lines that it stands for, and fails if there are none. -/
def Reader.Performs (read : Reader) (expand : Source.Expander) : Prop :=
  ∀ resource loading, (read resource loading).toOption.map (·.dictionary) =
    (expand resource).map (fun lines => loading.dictionary.perform (Line.statements lines))

section

variable {source : Source} {deeper : Option Reader}
  {expands : Option Source.Expander}
  (hdeeper : Option.Rel Reader.Performs deeper expands)
include hdeeper

theorem dictionary_follow (resource : String) (number : Nat) (target : String) (loading : Loading) :
    (follow source deeper resource number target loading).dictionary =
      loading.dictionary.perform (Line.statements
        ((expands.bind (fun expand => (source.resolve resource target).bind expand)).getD [])) := by
  cases hdeeper with
  | none => rfl
  | @some read expand hread =>
      unfold follow
      cases source.resolve resource target with
      | none => rfl
      | some found =>
          have hfound := hread found loading
          simp only [Option.bind_some]
          cases hread : read found loading with
          | error fault =>
              rw [hread] at hfound
              simp [Option.map_eq_none_iff.mp hfound.symm]
          | ok loaded =>
              rw [hread] at hfound
              obtain ⟨lines, hlines, hloaded⟩ := Option.map_eq_some_iff.mp hfound.symm
              simp [hlines, hloaded]

/-- A line carries out what it stands for. -/
theorem dictionary_step (resource : String) (number : Nat) (text : List Char) (loading : Loading) :
    (step source deeper resource loading ⟨number, Line.tokensOf text⟩).dictionary =
      loading.dictionary.perform (Line.statements (source.expandLine expands resource text)) := by
  have hsteps := steps_step source deeper resource number text loading
  generalize step source deeper resource loading _ = after at hsteps ⊢
  cases hsteps with
  | unknown cause hnone =>
      rw [Line.statements_expandLine (Line.inclusion?_of_none hnone), hnone]
      rfl
  | refused directive cause hnone =>
      rw [Line.statements_expandLine (Line.inclusion?_of_none hnone), hnone]
      exact dictionary_remarkTrailing ..
  | includes directive target hsome =>
      rw [Line.expandLine_of_inclusion (Line.inclusion?_of_some hsome),
        dictionary_follow hdeeper resource number target, dictionary_remarkTrailing]
  | states directive statement hsome hplain =>
      rw [Line.statements_expandLine hplain, hsome, Option.toList_some, Dictionary.perform_cons,
        Dictionary.perform_nil, Dictionary.carryOut]
      dsimp only
      rw [dictionary_remarkTrailing]
      split
      · rfl
      · exact dictionary_remarkTrailing ..

variable (source)

/-- Lines carry out what they stand for, one after the other. -/
theorem dictionary_foldl_step (resource : String) (lines : List (List Char)) (number : Nat)
    (loading : Loading) :
    (((lines.zipIdx number).filterMap Line.ofEntry).foldl (step source deeper resource)
      loading).dictionary =
      loading.dictionary.perform
        (Line.statements (lines.flatMap (source.expandLine expands resource))) := by
  induction lines generalizing number loading with
  | nil => rfl
  | cons line later ih =>
      rw [List.zipIdx_cons, List.filterMap_cons, List.flatMap_cons, Line.statements_append,
        Dictionary.perform_append]
      cases htokens : Line.tokensOf line with
      | nil =>
          rw [Source.expandLine_of_plain (Line.isInclusion_of_blank htokens)]
          simp only [Line.ofEntry, htokens, ih]
          simp [Line.statements, Line.statement?_of_blank htokens]
      | cons first words =>
          simp only [Line.ofEntry, htokens, List.foldl_cons, ih]
          rw [← dictionary_step hdeeper resource number line loading, htokens]

/-- A resource carries out what it stands for. -/
theorem performs_readResource :
    Reader.Performs (readResource source deeper) (fun resource =>
      (source.lines? resource).map (·.flatMap (source.expandLine expands resource))) := by
  intro resource loading
  cases hread : source.read resource with
  | error fault => simp [readResource, Source.lines?, hread, Except.toOption]
  | ok bytes =>
      have hlines := dictionary_foldl_step source hdeeper resource
        (Layout.lines (Utf8.lossyChars bytes)) 1 loading
      simpa [readResource, Source.lines?, hread, Except.toOption, Line.ofText_eq] using hlines

end

theorem performs_readTo (source : Source) (levels : Nat) :
    Reader.Performs (readTo source levels) (source.expand levels) := by
  induction levels with
  | zero => exact performs_readResource source .none
  | succ levels ih => exact performs_readResource source (.some ih)

/-- Reading fails exactly if the resource itself cannot be read. -/
theorem readTo_eq_error_iff {source : Source} {levels : Nat} {resource : String} {loading : Loading}
    {fault : DictionaryError} :
    readTo source levels resource loading = .error fault ↔
      ∃ cause, source.read resource = .error cause ∧ fault = .unreadable resource cause := by
  cases levels <;> unfold readTo readResource <;> cases source.read resource <;> simp [eq_comm]

theorem exists_readTo_eq_ok_iff {source : Source} {levels : Nat} {resource : String}
    {loading : Loading} :
    (∃ loaded, readTo source levels resource loading = .ok loaded) ↔
      ∃ bytes, source.read resource = .ok bytes := by
  cases levels <;> unfold readTo readResource <;> cases source.read resource <;> simp

theorem expand_of_readTo_error {source : Source} {levels : Nat} {resource : String}
    {loading : Loading} {fault : DictionaryError}
    (h : readTo source levels resource loading = .error fault) :
    source.expand levels resource = none := by
  have hperforms := performs_readTo source levels resource loading
  rw [h, eq_comm] at hperforms
  exact Option.map_eq_none_iff.mp hperforms

end Loading

namespace Dictionary

/-- Loading carries out the statements of the lines that the resource stands for. -/
theorem load_dictionary (dictionary : Dictionary) (source : Source) (resource : String) :
    (dictionary.load source resource).toOption.map (·.dictionary) =
      (source.expand maxIncludeDepth resource).map (fun lines =>
        dictionary.perform (Line.statements lines)) :=
  Loading.performs_readTo source maxIncludeDepth resource ⟨dictionary, []⟩

/-- A resource that stands for lines is loaded by carrying them out. -/
theorem load_of_expand {source : Source} {resource : String} {lines : List (List Char)}
    (h : source.expand maxIncludeDepth resource = some lines) (dictionary : Dictionary) :
    ∃ loading, dictionary.load source resource = .ok loading ∧
      loading.dictionary = dictionary.perform (Line.statements lines) := by
  have hload := load_dictionary dictionary source resource
  rw [h, Option.map_some] at hload
  cases hloading : dictionary.load source resource with
  | error fault =>
      rw [hloading] at hload
      cases hload
  | ok loading =>
      rw [hloading] at hload
      exact ⟨loading, rfl, Option.some.inj hload⟩

theorem dictionary_of_load {dictionary : Dictionary} {source : Source} {resource : String}
    {loading : Loading} (h : dictionary.load source resource = .ok loading) :
    ∃ lines, source.expand maxIncludeDepth resource = some lines ∧
      loading.dictionary = dictionary.perform (Line.statements lines) := by
  have hload := load_dictionary dictionary source resource
  rw [h] at hload
  obtain ⟨lines, hlines, hperformed⟩ := Option.map_eq_some_iff.mp hload.symm
  exact ⟨lines, hlines, hperformed.symm⟩

end Dictionary
end Radius
