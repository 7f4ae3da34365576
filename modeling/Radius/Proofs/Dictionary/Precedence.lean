-- SUMMARY: What loading makes of a dictionary: nothing it had is lost, the first definition of a code is kept and the last label of a value, and a load that fails does nothing.
import Radius.Proofs.Dictionary.Expansion
import Radius.Proofs.Dictionary.InPlace
import Radius.Proofs.Dictionary.Index

/-!
# Who is first and who is last

Loading carries out the statements of a resource in the order in which they stand when includes are
expanded. A definition counts if nothing has its code or its name yet, so of two for one code the
first counts whose name is free; a vendor keeps its name; and a label is written over. Each of these
rules is said for one statement and follows for lists of them by induction, since a statement that
fails changes nothing.
-/

namespace Radius.Dictionary

/-! ## What statements ask for -/

/-- The definition that a statement gives to a key, if its name is free. -/
def freeFor? (key : Option UInt32 × UInt8) (dictionary : Dictionary) :
    Statement → Option AttributeDefinition
  | .define definition =>
      if definition.key = key ∧ dictionary.byName? definition.name = none then some definition
      else none
  | _ => none

/-- The first definition of a key whose name is free at its turn. -/
def firstFree? (key : Option UInt32 × UInt8) :
    Dictionary → List Statement → Option AttributeDefinition
  | _,          []                 => none
  | dictionary, statement :: later =>
      (freeFor? key dictionary statement).or
        (firstFree? key (dictionary.carryOut statement) later)

/-- The statements that succeed. -/
def carriedOut : Dictionary → List Statement → List Statement
  | _,          []                 => []
  | dictionary, statement :: later =>
      match statement.apply dictionary with
      | .ok extended => statement :: carriedOut extended later
      | .error _     => carriedOut dictionary later

/-- The label that a statement writes for a value of a type. -/
def textFor? (name : String) (value : UInt32) : Statement → Option String
  | .label labelled number text => if labelled = name ∧ number = value then some text else none
  | _                           => none

/-- The last label that statements write for a value of a type. -/
def lastText? (statements : List Statement) (name : String) (value : UInt32) : Option String :=
  (statements.filterMap (textFor? name value)).getLast?

/-- The label of a value of the type with a name. -/
def labelOf? (dictionary : Dictionary) (name : String) (value : UInt32) : Option String :=
  (dictionary.byName? name).bind (·.labels.label? value)

theorem lastText?_cons (statement : Statement) (later : List Statement) (name : String)
    (value : UInt32) :
    lastText? (statement :: later) name value =
      (lastText? later name value).or (textFor? name value statement) := by
  unfold lastText?
  rw [List.filterMap_cons]
  cases textFor? name value statement with
  | none => simp
  | some text => simp [List.getLast?_cons]

/-! ## One statement -/

section

variable {dictionary extended : Dictionary} (h : dictionary.Indexed)
include h

/-- A vendor keeps its name. -/
theorem vendorName?_carryOut {vendor : UInt32} {name : String}
    (hname : dictionary.vendorName? vendor = some name) (statement : Statement) :
    (dictionary.carryOut statement).vendorName? vendor = some name := by
  cases hextended : statement.apply dictionary with
  | error fault => rwa [carryOut_of_error hextended]
  | ok extended =>
      rw [carryOut_of_ok hextended]
      cases statement with
      | define definition =>
          obtain ⟨-, -, rfl⟩ := define_eq_ok_iff.mp hextended
          exact hname
      | label labelled value text =>
          obtain ⟨-, rfl⟩ := (label_eq_ok_iff h).mp hextended
          exact hname
      | nameVendor other given =>
          obtain ⟨-, rfl⟩ | ⟨hnew, rfl⟩ := nameVendor_eq_ok_iff.mp hextended
          · exact hname
          · have hother : vendor ≠ other := by
              rintro rfl
              rw [vendorName?, hnew] at hname
              cases hname
            exact (Table.find?_insert_of_ne dictionary.vendors given hother).trans hname
      | inclusion target =>
          cases hextended
          exact hname

/-- A code that is defined keeps its definition, up to its labels; another one gets the definition
that the statement gives it, if its name is free. -/
theorem bare_byCode?_carryOut (statement : Statement) (vendor : Option UInt32) (code : UInt8) :
    ((dictionary.carryOut statement).byCode? vendor code).map AttributeDefinition.bare =
      ((dictionary.byCode? vendor code).map AttributeDefinition.bare).or
        ((freeFor? (vendor, code) dictionary statement).map
          (AttributeDefinition.bare ∘ reserveContainer)) := by
  cases hextended : statement.apply dictionary with
  | error fault =>
      rw [carryOut_of_error hextended]
      cases statement with
      | define definition =>
          cases hcode : dictionary.byCode? vendor code with
          | some present => rfl
          | none =>
              -- The code is free, so it is for its name that the definition is refused.
              rw [Option.map_none, Option.none_or, freeFor?]
              split
              · rename_i hfree
                cases hfree.1
                obtain ⟨extended, hdefined⟩ :=
                  (define_eq_ok_iff_of_free h).mpr ⟨hcode, hfree.2⟩
                rw [Statement.apply, hdefined] at hextended
                cases hextended
              · rfl
      | label | nameVendor | inclusion => simp only [freeFor?, Option.map_none, Option.or_none]
  | ok extended =>
      rw [carryOut_of_ok hextended]
      cases statement with
      | define definition =>
          obtain ⟨hcode, hname⟩ := (define_eq_ok_iff_of_free h).mp ⟨extended, hextended⟩
          rw [byCode?_define h hextended, freeFor?]
          split
          · rename_i hkey
            cases hkey
            rw [hcode, Option.map_none, Option.none_or, if_pos ⟨rfl, hname⟩]
            rfl
          · rename_i hkey
            rw [if_neg (fun hfree => hkey hfree.1.symm), Option.map_none, Option.or_none]
      | label name value text =>
          simp only [byCode?_label h hextended, freeFor?, Option.map_none, Option.or_none,
            Option.map_map]
          exact congrArg (Option.map · _) (funext (bare_relabel name value text))
      | nameVendor other name =>
          simp only [(byCode?_nameVendor hextended).1, freeFor?, Option.map_none, Option.or_none]
      | inclusion target =>
          cases hextended
          simp only [freeFor?, Option.map_none, Option.or_none]

/-- A label is what a statement that succeeds writes, or else what it was. -/
theorem labelOf?_of_apply {statement : Statement}
    (hplain : ∀ definition, statement = .define definition → definition.labels = [])
    (hextended : statement.apply dictionary = .ok extended) (name : String) (value : UInt32) :
    extended.labelOf? name value =
      (textFor? name value statement).or (dictionary.labelOf? name value) := by
  unfold labelOf?
  cases statement with
  | define definition =>
      simp only [byName?_define h hextended, textFor?, Option.none_or]
      split
      · rename_i hname
        rw [hname, ((define_eq_ok_iff_of_free h).mp ⟨extended, hextended⟩).2, Option.bind_some,
          labels_reserveContainer, hplain definition rfl]
        rfl
      · rfl
  | label labelled number text =>
      obtain ⟨definition, hdefinition⟩ :=
        Option.ne_none_iff_exists'.mp ((label_eq_ok_iff h).mp hextended).1
      rw [byName?_label_of_found h hdefinition hextended, textFor?]
      split
      · rename_i hname
        rw [hname, hdefinition, Option.bind_some, Option.bind_some, AttributeDefinition.setLabel,
          Labels.label?_insert]
        by_cases hvalue : value = number
        · simp [hvalue]
        · simp [hvalue, Ne.symm hvalue]
      · rename_i hname
        rw [if_neg (fun hsame => hname hsame.1.symm), Option.none_or]
  | nameVendor other given =>
      simp only [(byCode?_nameVendor hextended).2, textFor?, Option.none_or]
  | inclusion target =>
      cases hextended
      simp only [textFor?, Option.none_or]

end

/-! ## Statements in their order -/

section

variable {dictionary : Dictionary} (h : dictionary.Indexed)
include h

theorem vendorName?_perform {vendor : UInt32} {name : String}
    (hname : dictionary.vendorName? vendor = some name) (statements : List Statement) :
    (dictionary.perform statements).vendorName? vendor = some name := by
  induction statements generalizing dictionary with
  | nil => exact hname
  | cons statement later ih =>
      exact ih (h.carryOut statement) (vendorName?_carryOut h hname statement)

/-- Nothing is lost, and of the definitions for a new code the first is kept whose name is free. -/
theorem bare_byCode?_perform (statements : List Statement) (vendor : Option UInt32) (code : UInt8) :
    ((dictionary.perform statements).byCode? vendor code).map AttributeDefinition.bare =
      ((dictionary.byCode? vendor code).map AttributeDefinition.bare).or
        ((firstFree? (vendor, code) dictionary statements).map
          (AttributeDefinition.bare ∘ reserveContainer)) := by
  induction statements generalizing dictionary with
  | nil => rw [perform_nil, firstFree?, Option.map_none, Option.or_none]
  | cons statement later ih =>
      rw [perform_cons, ih (h.carryOut statement), bare_byCode?_carryOut h, firstFree?,
        Option.map_or, Option.or_assoc]

/-- The last label that is written counts, or else the one there was. -/
theorem labelOf?_perform {statements : List Statement}
    (hplain : ∀ definition, .define definition ∈ statements → definition.labels = [])
    (name : String) (value : UInt32) :
    (dictionary.perform statements).labelOf? name value =
      (lastText? (dictionary.carriedOut statements) name value).or
        (dictionary.labelOf? name value) := by
  induction statements generalizing dictionary with
  | nil => rfl
  | cons statement later ih =>
      have hlater : ∀ definition, .define definition ∈ later → definition.labels = [] :=
        fun definition hmem => hplain definition (List.mem_cons_of_mem _ hmem)
      rw [perform_cons, carriedOut]
      cases hextended : statement.apply dictionary with
      | error fault => rw [carryOut_of_error hextended, ih h hlater]
      | ok extended =>
          have hhead : ∀ definition, statement = .define definition → definition.labels = [] :=
            fun definition hsame => hplain definition (hsame ▸ List.mem_cons_self)
          rw [carryOut_of_ok hextended, ih (h.add hextended) hlater,
            labelOf?_of_apply h hhead hextended, lastText?_cons, Option.or_assoc]

end

/-! ## What loading makes of a dictionary -/

/-- What statements make of a dictionary. -/
structure Grows (before after : Dictionary) (statements : List Statement) : Prop where
  /-- Every type is found as before, by its code and by its name, and of the same kind. -/
  keeps : ∀ definition ∈ before.definitions, ∃ kept,
    after.byCode? definition.vendor definition.code = some kept ∧
    after.byName? definition.name = some kept ∧ kept.bare = definition.bare
  names : ∀ vendor name, before.vendorName? vendor = some name →
    after.vendorName? vendor = some name
  /-- No label is lost, and only a later one takes its place. -/
  labels : ∀ name value, after.labelOf? name value =
    (lastText? (before.carriedOut statements) name value).or (before.labelOf? name value)
  /-- A new code has its first definition with a free name. -/
  defines : ∀ vendor code, before.byCode? vendor code = none →
    (after.byCode? vendor code).map AttributeDefinition.bare =
      (firstFree? (vendor, code) before statements).map
        (AttributeDefinition.bare ∘ reserveContainer)

theorem Indexed.grows {dictionary : Dictionary} (h : dictionary.Indexed)
    (statements : List Statement)
    (hplain : ∀ definition, .define definition ∈ statements → definition.labels = []) :
    dictionary.Grows (dictionary.perform statements) statements where
  keeps definition hmem := by
    have hbefore : dictionary.byCode? definition.vendor definition.code = some definition :=
      (byCode?_eq_some_iff h).mpr ⟨hmem, rfl, rfl⟩
    have hafter := bare_byCode?_perform h statements definition.vendor definition.code
    rw [hbefore, Option.map_some, Option.some_or] at hafter
    obtain ⟨kept, hkept, hbare⟩ := Option.map_eq_some_iff.mp hafter
    have hnamed := byName?_of_byCode? (h.perform statements) hkept
    rw [(AttributeDefinition.eq_of_bare_eq hbare).2.1] at hnamed
    exact ⟨kept, hkept, hnamed, hbare⟩
  names _ _ hname := vendorName?_perform h hname statements
  labels name value := labelOf?_perform h hplain name value
  defines vendor code hnew := by
    rw [bare_byCode?_perform h, hnew, Option.map_none, Option.none_or]

/-- Loading only adds, and the first definition wins. It fails exactly with the resource itself,
and then nothing has been written. Otherwise all types, their kinds and the names of vendors stay,
the last label that is written for a value counts, and a new code has the first definition whose
name was free at its turn, in the order in which the lines stand when includes are expanded. -/
theorem loading_only_adds {dictionary : Dictionary} (h : Built dictionary) (source : Source)
    (resource : String) :
    (∀ fault left, Update.outcome (Update.load source resource) dictionary = (.error fault, left) →
      left = dictionary ∧
        ∃ cause, source.read resource = .error cause ∧ fault = .unreadable resource cause) ∧
    ∀ left, Update.outcome (Update.load source resource) dictionary = (.ok (), left) →
      ∃ lines, source.expand maxIncludeDepth resource = some lines ∧
        dictionary.Grows left (Line.statements lines) := by
  constructor
  · intro fault left houtcome
    rw [Update.outcome_load, Update.settle_eq_error_iff, Except.map_eq_error_iff] at houtcome
    exact ⟨houtcome.2, Loading.readTo_eq_error_iff.mp houtcome.1⟩
  · intro left houtcome
    rw [Update.outcome_load, Update.settle_eq_ok_iff] at houtcome
    obtain ⟨loading, hloading, rfl⟩ := Except.map_eq_ok_iff.mp houtcome
    obtain ⟨lines, hlines, hperformed⟩ := dictionary_of_load hloading
    have hgrows := h.indexed.grows (Line.statements lines)
      fun _ hmem => (Line.plain_of_mem_statements hmem).2
    rw [← hperformed] at hgrows
    exact ⟨lines, hlines, hgrows⟩

/-- A type, a label and a vendor that resources speak of in other ways. -/
def Sample.known : Dictionary :=
  ofCalls [.define (.new 5 "Port" .octets), .label "Port" 1 "Slot", .nameVendor 9 "Other"]

theorem sample_loading_only_adds :
    Update.outcome (Update.load Sample.resources.source "none") Sample.known =
      (.error (.unreadable "none" (.noResource "none")), Sample.known) ∧
    ∃ left, Update.outcome (Update.load Sample.resources.source "main") Sample.known =
        (.ok (), left) ∧
      left.vendorName? 9 = some "Other" ∧
      left.labelOf? "Port" 1 = some "Fast" := by
  have hbuilt : Built Sample.known := built_ofCalls _
  have hmissing : (Update.outcome (Update.load Sample.resources.source "none")
      Sample.known).1 = .error (.unreadable "none" (.noResource "none")) := by
    decide +kernel
  have hloaded : (Update.outcome (Update.load Sample.resources.source "main")
      Sample.known).1 = .ok () := by decide +kernel
  refine ⟨Prod.ext hmissing ?_, _, Prod.ext hloaded rfl, ?_⟩
  · exact ((loading_only_adds hbuilt _ _).1 _ _ (Prod.ext hmissing rfl)).1
  · obtain ⟨lines, hlines, hgrows⟩ :=
      (loading_only_adds hbuilt _ _).2 _ (Prod.ext hloaded rfl)
    have htext : (Sample.resources.source.expand maxIncludeDepth "main").map (fun lines =>
        lastText? (Sample.known.carriedOut (Line.statements lines)) "Port" 1) =
          some (some "Fast") := by decide +kernel
    rw [hlines, Option.map_some, Option.some.injEq] at htext
    refine ⟨hgrows.names 9 "Other" (by decide +kernel), ?_⟩
    rw [hgrows.labels, htext, Option.some_or]

end Radius.Dictionary
