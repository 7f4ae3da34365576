-- SUMMARY: The built-in resources are one list of lines, whose labels tell values apart; so every number of a built-in attribute is read back from its text.
import Mathlib.Data.List.Nodup
import Radius.Dictionary.Builtin
import Radius.Proofs.Dictionary.Inlining
import Radius.Proofs.Dictionary.Labels
import Radius.Proofs.Dictionary.Precedence

/-!
# Labels of the built-in dictionary

Every label of a dictionary that is loaded stands on one of the lines that are carried out. If these
lines write no label twice for one attribute, and none in digits alone, then the labels of every
attribute tell its values apart. That is checked on the lines of the built-in resources, spelled
out as characters.
-/

namespace Radius

/-! ## Lines that write labels -/

namespace Line

/-- The words of a line that writes a label: the attribute, the label and the number. -/
def labelWords? (line : List Char) : Option ((List Char × List Char) × List Char) :=
  match Layout.words line with
  | keyword :: name :: text :: number :: _ =>
      if Layout.upper keyword = ['V', 'A', 'L', 'U', 'E'] then some ((name, text), number) else none
  | _ => none

/-- The lines write no label of an attribute twice, and none that is digits alone. -/
structure LabelsApart (lines : List (List Char)) : Prop where
  nodup : ((lines.filterMap labelWords?).map Prod.fst).Nodup
  notDigits : ∀ entry ∈ lines.filterMap labelWords?,
    entry.1.2.all (fun c => (Decimal.digit? c).isSome) = false

instance (lines : List (List Char)) : Decidable (LabelsApart lines) :=
  decidable_of_iff
    (((lines.filterMap labelWords?).map Prod.fst).Nodup ∧
      ∀ entry ∈ lines.filterMap labelWords?,
        entry.1.2.all (fun c => (Decimal.digit? c).isSome) = false)
    ⟨fun h => ⟨h.1, h.2⟩, fun h => ⟨h.nodup, h.notDigits⟩⟩

instance (line : List Char) : Decidable (Plain line) :=
  decidable_of_iff (isInclusion line = false ∧ '\n' ∉ line)
    ⟨fun h => ⟨h.1, h.2⟩, fun h => ⟨h.noInclusion, h.noFeed⟩⟩

theorem eq_value_of_ofKeyword? {keyword : String} (h : Directive.ofKeyword? keyword = some .label) :
    keyword = "VALUE" := by
  unfold Directive.ofKeyword? at h
  split at h <;> first | rfl | cases h

theorem exists_label_of_ofTokens {directive : Directive} {tokens : List String}
    {name text : String} {value : UInt32}
    (h : Statement.ofTokens directive tokens = .ok (.label name value text)) :
    directive = .label ∧ ∃ keyword number later,
      tokens = keyword :: name :: text :: number :: later ∧
        Decimal.parseUInt32 number = .ok value := by
  unfold Statement.ofTokens at h
  split at h
  · obtain ⟨code, -, ⟨⟩⟩ := Except.bind_eq_ok_iff.mp h
  · rename_i keyword labelled given number later
    obtain ⟨read, hread, ⟨⟩⟩ := Except.bind_eq_ok_iff.mp h
    refine ⟨rfl, keyword, number, later, rfl, ?_⟩
    unfold Statement.number32 at hread
    split at hread
    · rename_i hnumber
      cases hread
      exact hnumber
    · cases hread
  · obtain ⟨vendor, -, h⟩ := Except.bind_eq_ok_iff.mp h
    obtain ⟨code, -, ⟨⟩⟩ := Except.bind_eq_ok_iff.mp h
  · obtain ⟨vendor, -, ⟨⟩⟩ := Except.bind_eq_ok_iff.mp h
  · cases h
  · cases h

/-- The words of a line that says something, spelled out. -/
theorem words_of_tokensOf {line : List Char} {first : String} {later : List String}
    (h : tokensOf line = first :: later) :
    Layout.words line = (first :: later).map String.toList := by
  unfold tokensOf at h
  split at h
  · cases h
  rename_i hline
  split at h
  · cases h
  have hsame : String.toList ∘ String.ofList = id := funext fun _ => String.toList_ofList
  rw [← h, List.map_map, hsame, List.map_id, hline]

/-- What a line writes as a label stands in its words. -/
theorem exists_labelWords?_of_statement? {line : List Char} {name text : String} {value : UInt32}
    (h : statement? line = some (.label name value text)) :
    ∃ number, labelWords? line = some ((name.toList, text.toList), number) ∧
      Decimal.parseUInt32 (String.ofList number) = .ok value := by
  obtain ⟨directive, hdirective, htokens⟩ := statement?_eq_some_iff.mp h
  obtain ⟨rfl, keyword, number, later, hwords, hnumber⟩ := exists_label_of_ofTokens htokens
  have hupper : Layout.upper keyword.toList = ['V', 'A', 'L', 'U', 'E'] := by
    have hkeyword := eq_value_of_ofKeyword? hdirective
    rw [Line.keyword, hwords, List.head?_cons, Option.getD_some] at hkeyword
    exact String.ofList_injective hkeyword
  refine ⟨number.toList, ?_, by rwa [String.ofList_toList]⟩
  rw [labelWords?, words_of_tokensOf hwords]
  exact if_pos hupper

section

variable {lines : List (List Char)} (h : LabelsApart lines)
include h

/-- A label of an attribute is written for one value. -/
theorem LabelsApart.eq_of_label {name text : String} {value other : UInt32}
    (hvalue : .label name value text ∈ statements lines)
    (hother : .label name other text ∈ statements lines) : value = other := by
  obtain ⟨line, hline, hstatement⟩ := List.mem_filterMap.mp hvalue
  obtain ⟨line', hline', hstatement'⟩ := List.mem_filterMap.mp hother
  obtain ⟨number, hwords, hnumber⟩ := exists_labelWords?_of_statement? hstatement
  obtain ⟨number', hwords', hnumber'⟩ := exists_labelWords?_of_statement? hstatement'
  have hsame := List.inj_on_of_nodup_map h.nodup (List.mem_filterMap.mpr ⟨line, hline, hwords⟩)
    (List.mem_filterMap.mpr ⟨line', hline', hwords'⟩) rfl
  cases hsame
  exact Except.ok.inj (hnumber.symm.trans hnumber')

/-- No label is the digits of a number. -/
theorem LabelsApart.ne_digits {name text : String} {value : UInt32}
    (hvalue : .label name value text ∈ statements lines) (n : Nat) : text ≠ toString n := by
  rintro rfl
  obtain ⟨line, hline, hstatement⟩ := List.mem_filterMap.mp hvalue
  obtain ⟨number, hwords, -⟩ := exists_labelWords?_of_statement? hstatement
  have hsome := h.notDigits _ (List.mem_filterMap.mpr ⟨line, hline, hwords⟩)
  have hdigits : ∀ c ∈ (toString n).toList, (Decimal.digit? c).isSome :=
    fun c hc => Decimal.isSome_of_mem_toDigits (Nat.toList_repr ▸ hc)
  rw [List.all_eq_true.mpr hdigits] at hsome
  cases hsome

end

end Line

/-! ## Labels of a dictionary that is loaded -/

namespace Dictionary

theorem mem_of_mem_carriedOut {dictionary : Dictionary} {statements : List Statement}
    {statement : Statement} (h : statement ∈ dictionary.carriedOut statements) :
    statement ∈ statements := by
  induction statements generalizing dictionary with
  | nil => cases h
  | cons first later ih =>
      rw [carriedOut] at h
      split at h
      · rcases List.mem_cons.mp h with rfl | hlater
        · exact List.mem_cons_self
        · exact List.mem_cons_of_mem _ (ih hlater)
      · exact List.mem_cons_of_mem _ (ih h)

theorem mem_of_lastText? {statements : List Statement} {name text : String} {value : UInt32}
    (h : lastText? statements name value = some text) : .label name value text ∈ statements := by
  obtain ⟨statement, hstatement, htext⟩ := List.mem_filterMap.mp (List.mem_of_getLast? h)
  unfold textFor? at htext
  split at htext
  · split at htext
    · rename_i hkey
      cases htext
      exact hkey.1 ▸ hkey.2 ▸ hstatement
    · cases htext
  · cases htext

/-- All labels are in order. -/
def LabelsOrdered (dictionary : Dictionary) : Prop :=
  ∀ definition ∈ dictionary.definitions, definition.labels.Ordered

theorem LabelsOrdered.add {dictionary extended : Dictionary} {statement : Statement}
    (h : dictionary.LabelsOrdered) (hindexed : dictionary.Indexed)
    (hplain : ∀ definition, statement = .define definition → definition.labels = [])
    (hextended : statement.apply dictionary = .ok extended) : extended.LabelsOrdered := by
  cases statement with
  | define definition =>
      obtain ⟨-, -, rfl⟩ := define_eq_ok_iff.mp hextended
      intro present hpresent
      rcases List.mem_append.mp hpresent with hold | hnew
      · exact h present hold
      · rw [List.mem_singleton.mp hnew, labels_reserveContainer, hplain definition rfl]
        exact Labels.ordered_nil
  | label name value text =>
      obtain ⟨-, rfl⟩ := (label_eq_ok_iff hindexed).mp hextended
      intro present hpresent
      obtain ⟨definition, hdefinition, rfl⟩ := List.mem_map.mp hpresent
      unfold relabel
      split
      · exact (h definition hdefinition).insert value text
      · exact h definition hdefinition
  | nameVendor vendor name =>
      obtain ⟨-, rfl⟩ | ⟨-, rfl⟩ := nameVendor_eq_ok_iff.mp hextended
      · exact h
      · exact h
  | inclusion target =>
      cases hextended
      exact h

theorem labelsOrdered_perform (lines : List (List Char)) :
    (empty.perform (Line.statements lines)).LabelsOrdered := by
  refine (perform_keeps (P := fun dictionary => dictionary.Indexed ∧ dictionary.LabelsOrdered)
    ?_ ⟨indexed_empty, fun _ hmem => by cases hmem⟩).2
  rintro statement hstatement dictionary extended ⟨hindexed, hordered⟩ hextended
  refine ⟨hindexed.add hextended, hordered.add hindexed ?_ hextended⟩
  rintro definition rfl
  exact (Line.plain_of_mem_statements hstatement).2

section

variable {lines : List (List Char)} {definition : AttributeDefinition}
  (hmem : definition ∈ (empty.perform (Line.statements lines)).definitions)
include hmem

/-- A label stands on a line. -/
theorem mem_statements_of_label? {value : UInt32} {text : String}
    (h : definition.labels.label? value = some text) :
    .label definition.name value text ∈ Line.statements lines := by
  have hindexed : (empty.perform (Line.statements lines)).Indexed := indexed_empty.perform _
  have hname := (byName?_eq_some_iff hindexed).mpr ⟨hmem, rfl⟩
  have hplain : ∀ definition, .define definition ∈ Line.statements lines → definition.labels = [] :=
    fun _ hdefinition => (Line.plain_of_mem_statements hdefinition).2
  have hlabel := labelOf?_perform indexed_empty hplain definition.name value
  rw [labelOf?, hname, Option.bind_some, h] at hlabel
  rcases Option.or_eq_some_iff.mp hlabel.symm with hlast | ⟨-, hnone⟩
  · exact mem_of_mem_carriedOut (mem_of_lastText? hlast)
  · cases hnone

theorem labels_distinguish (h : Line.LabelsApart lines) : definition.labels.Distinguishes where
  eq_of_label _ _ _ hvalue hother :=
    h.eq_of_label (mem_statements_of_label? hmem hvalue) (mem_statements_of_label? hmem hother)
  labelled_of_digits _ other hdigits :=
    absurd rfl (h.ne_digits (mem_statements_of_label? hmem hdigits) other.toNat)

end

end Dictionary

/-! ## The built-in lines -/

namespace Builtin

/-- The built-in lines in the order in which they are carried out: the include stands last. -/
def lines : List (List Char) := (standardLines.dropLast ++ vendorLines).map String.toList

theorem map_toList_cons {line : String} {chars : List Char} {later : List String}
    {rest : List (List Char)} (hline : line.toList = chars)
    (hlater : later.map String.toList = rest) :
    (line :: later).map String.toList = chars :: rest := by
  rw [List.map_cons, hline, hlater]

/-- What is checked on the built-in lines: all labels stand apart, no line is an include, and the
first lines define the service types. -/
theorem lines_checked :
    Line.LabelsApart lines ∧ (∀ line ∈ lines, Line.Plain line) ∧
      (Dictionary.empty.perform (Line.statements (lines.take 18))).byName? "Service-Type" =
        some (.new 6 "Service-Type" .integer) := by
  have hspelled : ∃ chars, lines = chars ∧
      Line.LabelsApart chars ∧ (∀ line ∈ chars, Line.Plain line) ∧
        (Dictionary.empty.perform (Line.statements (chars.take 18))).byName? "Service-Type" =
          some (.new 6 "Service-Type" .integer) := by
    -- The characters of a literal are costly to evaluate, so each line is spelled out by
    -- unification first.
    apply Exists.intro
    apply And.intro
    · simp only [lines, standardLines, vendorLines, List.dropLast, List.cons_append, List.nil_append]
      repeat
        apply map_toList_cons
        · exact String.toList_ofList
      exact List.map_nil
    · decide +kernel
  obtain ⟨chars, rfl, hchecked⟩ := hspelled
  exact hchecked

theorem toList_textOf (lines : List String) :
    (textOf lines).toList = (Line.textOf (lines.map String.toList)).toList := by
  rw [textOf, String.toList_join, Line.textOf, String.toList_ofList, List.flatMap_map,
    List.flatMap_map]
  exact List.flatMap_congr fun line _ => String.toList_append

theorem standardLines_eq :
    standardLines = standardLines.dropLast ++ ["$INCLUDE vendors.dict"] :=
  (List.dropLast_append_getLast? _ (by rfl)).symm

theorem lines?_source {name : String} {lines : List String}
    (hfound : resources.find? name = some (textOf lines))
    (hfeed : ∀ line ∈ lines.map String.toList, '\n' ∉ line) :
    resources.source.lines? name = some (lines.map String.toList) := by
  rw [Resources.lines?_source, hfound, Option.map_some, toList_textOf, Line.lines_textOf hfeed]

theorem find?_entry : resources.find? entry = some (textOf standardLines) :=
  (Table.find?_insert_of_ne _ _ (by decide)).trans (Table.find?_insert_self _ _ _)

theorem find?_vendors : resources.find? "vendors.dict" = some (textOf vendorLines) :=
  Table.find?_insert_self _ _ _

theorem resolve_vendors : resources.source.resolve entry "vendors.dict" = some "vendors.dict" := by
  decide +kernel

theorem inclusion?_vendors :
    Line.inclusion? "$INCLUDE vendors.dict".toList = some "vendors.dict" := by
  decide +kernel

theorem map_toList_standardLines : standardLines.map String.toList =
    standardLines.dropLast.map String.toList ++ ["$INCLUDE vendors.dict".toList] := by
  have hlines := congrArg (List.map String.toList) standardLines_eq
  rw [List.map_append] at hlines
  exact hlines

/-- Loading carries out all lines. -/
theorem expand_entry :
    resources.source.expand maxIncludeDepth entry = some lines := by
  have hplain := lines_checked.2.1
  rw [lines, List.map_append] at hplain
  obtain ⟨hstandard, hvendors⟩ := List.forall_mem_append.mp hplain
  have hentry : resources.source.lines? entry = some (standardLines.map String.toList) := by
    refine lines?_source find?_entry ?_
    rw [map_toList_standardLines, List.forall_mem_append, List.forall_mem_singleton]
    exact ⟨fun line hline => (hstandard line hline).noFeed, by decide +kernel⟩
  have hvendor : resources.source.expand 15 "vendors.dict" = some (vendorLines.map String.toList) :=
    Source.expand_of_plain (lines?_source find?_vendors fun line hline => (hvendors line hline).noFeed)
      fun line hline => (hvendors line hline).noInclusion
  have hown : ∀ line ∈ standardLines.dropLast.map String.toList,
      resources.source.expandLine (some (resources.source.expand 15)) entry line = [line] :=
    fun line hline => Source.expandLine_of_plain (hstandard line hline).noInclusion
  rw [map_toList_standardLines] at hentry
  rw [Source.expand_of_inclusion hentry inclusion?_vendors resolve_vendors]
  have hexpander : resources.source.expander? maxIncludeDepth = some (resources.source.expand 15) := rfl
  rw [hexpander, Option.bind_some, hvendor, Option.getD_some, List.flatMap_congr hown,
    List.flatMap_singleton', List.flatMap_nil, List.append_nil, lines, List.map_append]

end Builtin

namespace Loading

theorem builtin_of_load {loading : Loading}
    (h : Dictionary.empty.load Builtin.resources.source Builtin.entry = .ok loading) :
    builtin = loading := by
  delta builtin
  rw [h]

/-- The built-in resources can be loaded, and loading carries out their lines. -/
theorem load_builtin :
    Dictionary.empty.load Builtin.resources.source Builtin.entry = .ok builtin ∧
      builtin.dictionary =
        Dictionary.empty.perform (Line.statements Builtin.lines) := by
  obtain ⟨loading, hloading, hperformed⟩ :=
    Dictionary.load_of_expand Builtin.expand_entry Dictionary.empty
  rw [builtin_of_load hloading]
  exact ⟨hloading, hperformed⟩

end Loading

/-- What the first lines define, the built-in dictionary has. -/
theorem Builtin.exists_serviceType : ∃ definition ∈ Loading.builtin.dictionary.definitions,
    definition.name = "Service-Type" ∧ definition.kind = .integer := by
  have hfront := Dictionary.indexed_empty.perform (Line.statements (lines.take 18))
  have hgrows := hfront.grows (Line.statements (lines.drop 18))
    fun _ hmem => (Line.plain_of_mem_statements hmem).2
  rw [← Dictionary.perform_append, ← Line.statements_append, List.take_append_drop,
    ← Loading.load_builtin.2] at hgrows
  obtain ⟨kept, -, hname, hbare⟩ := hgrows.keeps _
    ((Dictionary.byName?_eq_some_iff hfront).mp lines_checked.2.2).1
  have hindexed : Loading.builtin.dictionary.Indexed := by
    rw [Loading.load_builtin.2]
    exact Dictionary.indexed_empty.perform _
  have hfound := (Dictionary.byName?_eq_some_iff hindexed).mp hname
  exact ⟨kept, hfound.1, hfound.2, (AttributeDefinition.eq_of_bare_eq hbare).2.2⟩

/-! ## Reading numbers back -/

/-- When the text of a number is read back. All four octets of a numeric attribute come back from
their text exactly if its labels tell values apart and none is the digits of a value without a
label. In any case a label is read as the smallest value that has it, another text as a number,
and a value that has a label is written as it. That the labels are in order is no condition on
them: whichever are given, and in whichever order, they are. The built-in resources can be loaded,
and for every numeric attribute that they define all octets come back. -/
theorem labels_read_back :
    (∀ definition : AttributeDefinition, definition.kind = .integer → definition.labels.Ordered →
      ((∀ bytes, bytes.length = 4 →
          definition.parseValue (definition.formatValue bytes) = .ok bytes) ↔
        definition.labels.Distinguishes) ∧
      (∀ text, (∃ value, definition.labels.label? value = some text) →
        ∃ least, definition.labels.label? least = some text ∧
          (∀ other, definition.labels.label? other = some text → least ≤ other) ∧
          definition.parseValue text = .ok (Value.integerBytes least)) ∧
      (∀ text, (∀ value, definition.labels.label? value ≠ some text) →
        definition.parseValue text = Kind.integer.parse text) ∧
      ∀ value text, definition.labels.label? value = some text →
        definition.formatValue (Value.integerBytes value) = text) ∧
    (∀ entries : List (UInt32 × String), Labels.Ordered
      (entries.foldl (fun labels entry => labels.insert entry.1 entry.2) [])) ∧
    Dictionary.empty.load Builtin.resources.source Builtin.entry = .ok Loading.builtin ∧
    ∀ definition ∈ Loading.builtin.dictionary.definitions, definition.kind = .integer →
      ∀ bytes, bytes.length = 4 →
        definition.parseValue (definition.formatValue bytes) = .ok bytes := by
  have hall : ∀ definition : AttributeDefinition, definition.kind = .integer →
      definition.labels.Ordered →
      ((∀ bytes, bytes.length = 4 →
        definition.parseValue (definition.formatValue bytes) = .ok bytes) ↔
          definition.labels.Distinguishes) := by
    intro definition hkind hordered
    rw [← definition.forall_parseValue_formatValue_iff hkind hordered]
    constructor
    · exact fun hback value => hback _ rfl
    · intro hback bytes hlength
      obtain ⟨value, rfl⟩ := Value.exists_integerBytes_eq hlength
      exact hback value
  refine ⟨fun definition hkind hordered => ⟨hall definition hkind hordered, ?_, ?_, ?_⟩,
    Labels.ordered_foldl_insert, Loading.load_builtin.1, ?_⟩
  · rintro text ⟨value, hvalue⟩
    obtain ⟨least, hleast⟩ : ∃ least, definition.labels.value? text = some least := by
      apply Option.ne_none_iff_exists'.mp
      exact fun hnone => (Labels.value?_eq_none_iff hordered).mp hnone value hvalue
    obtain ⟨hlabel, hsmallest⟩ := (Labels.value?_eq_some_iff hordered).mp hleast
    exact ⟨least, hlabel, hsmallest, definition.parseValue_of_value? hkind hleast⟩
  · intro text hnone
    exact definition.parseValue_of_none hkind ((Labels.value?_eq_none_iff hordered).mpr hnone)
  · intro value text hlabel
    rw [definition.formatValue_integerBytes hkind, hlabel, Option.getD_some]
  · rw [Loading.load_builtin.2]
    intro definition hmem hkind
    exact (hall definition hkind (Dictionary.labelsOrdered_perform _ definition hmem)).mpr
      (Dictionary.labels_distinguish hmem Builtin.lines_checked.1)

/-- A numeric attribute with a label for 1 that is the digits of 7. -/
def Sample.shadowing : AttributeDefinition := ⟨1, none, "Level", .integer, [(1, "7")]⟩

theorem sample_labels_read_back :
    (∃ bytes, bytes.length = 4 ∧
      Sample.shadowing.parseValue (Sample.shadowing.formatValue bytes) ≠ .ok bytes) ∧
    Sample.shadowing.parseValue "7" = .ok (Value.integerBytes 1) ∧
    Sample.shadowing.parseValue "8" = Kind.integer.parse "8" ∧
    Sample.shadowing.formatValue (Value.integerBytes 1) = "7" ∧
    ∃ definition ∈ Loading.builtin.dictionary.definitions, definition.name = "Service-Type" ∧
      definition.parseValue (definition.formatValue [0, 0, 0, 1]) = .ok [0, 0, 0, 1] := by
  obtain ⟨hall, -, -, hbuiltin⟩ := labels_read_back
  have hordered : Sample.shadowing.labels.Ordered := List.pairwise_singleton _ _
  have honly : ∀ value text, Sample.shadowing.labels.label? value = some text →
      value = 1 ∧ text = "7" := by
    intro value text hvalue
    rw [Labels.label?_eq_some_iff hordered] at hvalue
    simpa [Sample.shadowing] using hvalue
  obtain ⟨hiff, hleast, hdigits, hlabel⟩ := hall Sample.shadowing rfl hordered
  refine ⟨?_, ?_, hdigits "8" ?_, hlabel 1 "7" (by decide +kernel), ?_⟩
  · have hshadowed : ¬ Sample.shadowing.labels.Distinguishes :=
      fun h => h.labelled_of_digits 1 7 (by decide +kernel) (by decide +kernel)
    rw [← hiff] at hshadowed
    push Not at hshadowed
    exact hshadowed
  · obtain ⟨least, hfound, -, hparsed⟩ := hleast "7" ⟨1, by decide +kernel⟩
    rwa [(honly least "7" hfound).1] at hparsed
  · intro value hvalue
    exact absurd (honly value "8" hvalue).2 (by decide)
  · obtain ⟨definition, hmem, hname, hkind⟩ := Builtin.exists_serviceType
    exact ⟨definition, hmem, hname, hbuiltin definition hmem hkind _ rfl⟩

end Radius
