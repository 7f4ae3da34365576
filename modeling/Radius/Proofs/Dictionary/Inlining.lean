-- SUMMARY: Loading a resource with its includes comes to the same as loading the one list of lines in which they are replaced, as deep as includes are followed.
import Radius.Proofs.Dictionary.Expansion
import Radius.Proofs.Text.Utf8

/-!
# Includes are inlined

The lines that a resource stands for can be written down as a text of their own. No include is left
in it, so it stands for itself, and loading it makes the same dictionary, whatever the graph of the
includes. A chain of includes is followed for `maxIncludeDepth` links; the next one is left out, and
the lines around it stay where they are.
-/

namespace Radius

/-! ## Lines and their text -/

namespace Layout

/-- A line ends at its line feed. -/
theorem lines_append_feed {line : List Char} (h : '\n' ∉ line) (text : List Char) :
    lines (line ++ '\n' :: text) = line :: lines text := by
  induction line with
  | nil => simp [lines]
  | cons c line ih =>
      obtain ⟨hc, hline⟩ := List.ne_and_not_mem_of_not_mem_cons h
      rw [List.cons_append, lines, if_neg (Ne.symm hc), ih hline]

/-- The last line has no line feed, and is none when it is empty. -/
theorem lines_of_feed_not_mem {line : List Char} (h : '\n' ∉ line) (hne : line ≠ []) :
    lines line = [line] := by
  induction line with
  | nil => exact absurd rfl hne
  | cons c line ih =>
      obtain ⟨hc, hline⟩ := List.ne_and_not_mem_of_not_mem_cons h
      rw [lines, if_neg (Ne.symm hc)]
      cases line with
      | nil => rfl
      | cons d line => rw [ih hline (List.cons_ne_nil _ _)]

theorem feed_not_mem_of_mem_lines {line text : List Char} (h : line ∈ lines text) : '\n' ∉ line := by
  induction text generalizing line with
  | nil => cases h
  | cons c text ih =>
      unfold lines at h
      split at h
      · rcases List.mem_cons.mp h with rfl | hlater
        · exact List.not_mem_nil
        · exact ih hlater
      rename_i hc
      split at h
      · cases List.mem_singleton.mp h
        simpa using Ne.symm hc
      · rename_i first later hlines
        rcases List.mem_cons.mp h with rfl | hlater
        · exact List.not_mem_cons_of_ne_of_not_mem (Ne.symm hc) (ih (hlines ▸ List.mem_cons_self))
        · exact ih (hlines ▸ List.mem_cons_of_mem _ hlater)

end Layout

theorem Line.lines_textOf {lines : List (List Char)} (h : ∀ line ∈ lines, '\n' ∉ line) :
    Layout.lines (Line.textOf lines).toList = lines := by
  rw [textOf, String.toList_ofList]
  induction lines with
  | nil => rfl
  | cons line later ih =>
      obtain ⟨hline, hlater⟩ := List.forall_mem_cons.mp h
      rw [List.flatMap_cons, List.append_assoc, List.singleton_append,
        Layout.lines_append_feed hline, ih hlater]

/-- One line that is no include. -/
structure Line.Plain (line : List Char) : Prop where
  noInclusion : isInclusion line = false
  noFeed : '\n' ∉ line

namespace Source

/-! ## No include is left -/

section

variable {source : Source}

/-- What expands the includes of a resource; none where they are too deep. -/
def expander? (source : Source) : (levels : Nat) → Option Expander
  | 0          => none
  | levels + 1 => some (source.expand levels)

theorem expand_eq (source : Source) (levels : Nat) (resource : String) :
    source.expand levels resource = (source.lines? resource).map
      (·.flatMap (source.expandLine (source.expander? levels) resource)) := by
  cases levels <;> rfl

/-- A line that stands for a line is no include, or stands in what is included. -/
theorem mem_expandLine {deeper : Option Expander} {resource : String}
    {line own : List Char} (h : line ∈ source.expandLine deeper resource own) :
    (line = own ∧ Line.isInclusion line = false) ∨
      ∃ expand ∈ deeper, ∃ found lines, expand found = some lines ∧ line ∈ lines := by
  unfold expandLine at h
  split at h
  · right
    cases hincluded : (Line.inclusion? own).bind (fun target =>
        deeper.bind (fun expand => (source.resolve resource target).bind expand)) with
    | none =>
        rw [hincluded] at h
        cases h
    | some lines =>
        rw [hincluded] at h
        obtain ⟨target, -, hdeeper⟩ := Option.bind_eq_some_iff.mp hincluded
        obtain ⟨expand, hexpand, hresolved⟩ := Option.bind_eq_some_iff.mp hdeeper
        obtain ⟨found, -, hlines⟩ := Option.bind_eq_some_iff.mp hresolved
        exact ⟨expand, hexpand, found, lines, hlines, h⟩
  · rename_i hplain
    cases List.mem_singleton.mp h
    exact .inl ⟨rfl, by simpa using hplain⟩

/-- What stands for the lines of a resource is plain, if what is included is. -/
theorem plain_of_mem_expanded {deeper : Option Expander}
    (hdeeper : ∀ expand ∈ deeper, ∀ found lines, expand found = some lines →
      ∀ line ∈ lines, Line.Plain line)
    {resource : String} {owns : List (List Char)} (howns : source.lines? resource = some owns)
    {line : List Char} (hline : line ∈ owns.flatMap (source.expandLine deeper resource)) :
    Line.Plain line := by
  obtain ⟨own, hown, hmem⟩ := List.mem_flatMap.mp hline
  rcases mem_expandLine hmem with ⟨rfl, hplain⟩ | ⟨expand, hexpand, found, lines, hlines, hmem⟩
  · obtain ⟨bytes, -, rfl⟩ := Option.map_eq_some_iff.mp howns
    exact ⟨hplain, Layout.feed_not_mem_of_mem_lines hown⟩
  · exact hdeeper expand hexpand found lines hlines line hmem

theorem plain_of_mem_expand {levels : Nat} {resource : String} {lines : List (List Char)}
    (h : source.expand levels resource = some lines) {line : List Char} (hline : line ∈ lines) :
    Line.Plain line := by
  induction levels generalizing resource lines line with
  | zero =>
      obtain ⟨owns, howns, rfl⟩ := Option.map_eq_some_iff.mp h
      exact plain_of_mem_expanded (by simp) howns hline
  | succ levels ih =>
      obtain ⟨owns, howns, rfl⟩ := Option.map_eq_some_iff.mp h
      refine plain_of_mem_expanded ?_ howns hline
      rintro expand ⟨⟩ found lines hlines line hmem
      exact ih hlines hmem

/-- A resource without includes stands for its own lines. -/
theorem expand_of_plain {levels : Nat} {resource : String} {lines : List (List Char)}
    (hlines : source.lines? resource = some lines)
    (hplain : ∀ line ∈ lines, Line.isInclusion line = false) :
    source.expand levels resource = some lines := by
  have hlone : ∀ line ∈ lines,
      source.expandLine (source.expander? levels) resource line = [line] :=
    fun line hline => expandLine_of_plain (hplain line hline)
  rw [expand_eq, hlines, Option.map_some, List.flatMap_congr hlone, List.flatMap_singleton']

end

/-! ## What a resource says

A line is carried out for its statement, so what a resource stands for depends on nothing but the
statements that its own lines make, and those of what it includes. -/

/-- The statements that one statement of a resource stands for. -/
def expandStatement (source : Source) (deeper : Option Expander) (resource : String) :
    Statement → List Statement
  | .inclusion target =>
      ((deeper.bind (fun expand => (source.resolve resource target).bind expand)).map
        Line.statements).getD []
  | statement => [statement]

theorem statements_expandLine (source : Source) (deeper : Option Expander) (resource : String)
    (line : List Char) : Line.statements (source.expandLine deeper resource line) =
      (Line.statement? line).toList.flatMap (source.expandStatement deeper resource) := by
  have hplain (h : Line.inclusion? line = none) :
      Line.statements (source.expandLine deeper resource line) =
        (Line.statement? line).toList := Line.statements_expandLine h
  cases hstatement : Line.statement? line with
  | none => rw [hplain (Line.inclusion?_of_none hstatement), hstatement]; rfl
  | some statement =>
      cases statement with
      | inclusion target =>
          rw [Line.expandLine_of_inclusion (Line.inclusion?_of_some hstatement), Option.toList_some,
            List.flatMap_singleton, expandStatement]
          generalize deeper.bind _ = included
          cases included <;> rfl
      | define definition => rw [hplain (by rw [Line.inclusion?, hstatement]), hstatement]; rfl
      | label name value text => rw [hplain (by rw [Line.inclusion?, hstatement]), hstatement]; rfl
      | nameVendor vendor name => rw [hplain (by rw [Line.inclusion?, hstatement]), hstatement]; rfl

theorem statements_flatMap_expandLine (source : Source) (deeper : Option Expander)
    (resource : String) (lines : List (List Char)) :
    Line.statements (lines.flatMap (source.expandLine deeper resource)) =
      (Line.statements lines).flatMap (source.expandStatement deeper resource) := by
  induction lines with
  | nil => rfl
  | cons line later ih =>
      rw [List.flatMap_cons, Line.statements_append, ih, statements_expandLine,
        Line.statements_cons, List.flatMap_append]

theorem statements_expand (source : Source) (levels : Nat) (resource : String) :
    (source.expand levels resource).map Line.statements =
      ((source.lines? resource).map Line.statements).map
        (·.flatMap (source.expandStatement (source.expander? levels) resource)) := by
  rw [expand_eq, Option.map_map, Option.map_map]
  congr 1
  funext lines
  exact source.statements_flatMap_expandLine _ resource lines

/-- Resources whose lines make the same statements stand for the same statements. -/
theorem statements_expand_congr {source changed : Source}
    (hresolve : changed.resolve = source.resolve)
    (hlines : ∀ name, (changed.lines? name).map Line.statements =
      (source.lines? name).map Line.statements) (levels : Nat) (resource : String) :
    (changed.expand levels resource).map Line.statements =
      (source.expand levels resource).map Line.statements := by
  induction levels generalizing resource with
  | zero =>
      have hsame : changed.expandStatement (changed.expander? 0) resource =
          source.expandStatement (source.expander? 0) resource := by
        funext statement
        cases statement <;> rfl
      rw [statements_expand, statements_expand, hlines, hsame]
  | succ levels ih =>
      have hsame : changed.expandStatement (changed.expander? (levels + 1)) resource =
          source.expandStatement (source.expander? (levels + 1)) resource := by
        funext statement
        cases statement with
        | inclusion target =>
            simp only [expandStatement, expander?, Option.bind_some, hresolve, Option.map_bind]
            congr 2
            funext found
            exact ih found
        | define definition => rfl
        | label name value text => rfl
        | nameVendor vendor name => rfl
      rw [statements_expand, statements_expand, hlines, hsame]

/-! ## Chains of includes -/

/-- An include: the resource it stands in, and the lines before and after it. -/
structure Link where
  resource : String
  before : List (List Char)
  after : List (List Char)

/-- A chain of includes that leads from one resource to another. -/
inductive Leads (source : Source) : String → List Link → String → Prop
  | here (resource : String) : Leads source resource [] resource
  | follow {resource next found target : String} {before after : List (List Char)}
      {line : List Char} {later : List Link} :
      source.lines? resource = some (before ++ line :: after) →
      Line.inclusion? line = some target → source.resolve resource target = some next →
      Leads source next later found → Leads source resource (⟨resource, before, after⟩ :: later) found

/-- Lines in the place of the last include of a chain, with all that stands around the chain. -/
def nest (source : Source) : (levels : Nat) → List Link → List (List Char) → List (List Char)
  | _,      [],            inner => inner
  | levels, link :: later, inner =>
      let around := List.flatMap (source.expandLine (source.expander? levels) link.resource)
      around link.before ++ nest source (levels - 1) later inner ++ around link.after

section

variable {source : Source}

/-- A resource that includes itself leads to itself by any number of includes. -/
theorem Leads.circle {resource target : String} {before after : List (List Char)}
    {line : List Char} (hlines : source.lines? resource = some (before ++ line :: after))
    (hinclusion : Line.inclusion? line = some target)
    (hresolve : source.resolve resource target = some resource) (count : Nat) :
    source.Leads resource (List.replicate count ⟨resource, before, after⟩) resource := by
  induction count with
  | zero => exact .here resource
  | succ count ih => exact .follow hlines hinclusion hresolve ih

/-- An include stands for what the resource that it means stands for, or for nothing if it is too
deep. -/
theorem expand_of_inclusion {levels : Nat} {resource next target : String}
    {before after : List (List Char)} {line : List Char}
    (hlines : source.lines? resource = some (before ++ line :: after))
    (hinclusion : Line.inclusion? line = some target)
    (hresolve : source.resolve resource target = some next) :
    source.expand levels resource =
      some (before.flatMap (source.expandLine (source.expander? levels) resource) ++
        ((source.expander? levels).bind (· next)).getD [] ++
        after.flatMap (source.expandLine (source.expander? levels) resource)) := by
  have hfound : (Line.inclusion? line).bind (source.resolve resource) = some next := by
    rw [hinclusion, Option.bind_some, hresolve]
  rw [expand_eq, hlines, Option.map_some, List.flatMap_append, List.flatMap_cons,
    Line.expandLine_of_found hfound, List.append_assoc]

/-- A chain that is not too long is followed to its end. -/
theorem expand_of_leads {resource found : String} {links : List Link}
    (h : source.Leads resource links found) {levels : Nat} {inner : List (List Char)}
    (hinner : source.expand levels found = some inner) :
    source.expand (levels + links.length) resource =
      some (source.nest (levels + links.length) links inner) := by
  induction h with
  | here resource => exact hinner
  | follow hlines hinclusion hresolve _ ih =>
      rw [expand_of_inclusion hlines hinclusion hresolve, List.length_cons, ← Nat.add_assoc, nest,
        expander?, Option.bind_some, ih hinner, Nat.add_sub_cancel]
      rfl

/-- The include that is too deep is left out of a chain. -/
theorem expand_of_leads_too_deep {resource found : String} {links : List Link}
    (h : source.Leads resource links found) {levels : Nat} (hlength : links.length = levels + 1) :
    source.expand levels resource = some (source.nest levels links []) := by
  induction h generalizing levels with
  | here resource => cases hlength
  | @follow resource next found target before after line later hlines hinclusion hresolve _ ih =>
      rw [expand_of_inclusion hlines hinclusion hresolve, nest]
      cases levels with
      | zero =>
          rw [List.eq_nil_of_length_eq_zero (Nat.succ.inj hlength)]
          rfl
      | succ levels =>
          rw [expander?, Option.bind_some, ih (Nat.succ.inj hlength)]
          rfl

end

end Source

/-! ## Embedded resources -/

namespace Resources

theorem lines?_source (resources : Resources) (name : String) :
    resources.source.lines? name =
      (resources.find? name).map (fun text => Layout.lines text.toList) := by
  unfold Source.lines? source
  cases hfound : resources.find? name with
  | none => simp [hfound, Except.toOption]
  | some text => simp [hfound, Except.toOption, Utf8.lossyChars_encode]

/-- A resource that is there stands for lines. -/
theorem exists_expand {resources : Resources} {name : String} (h : resources.contains name)
    (levels : Nat) : ∃ lines, resources.source.expand levels name = some lines := by
  obtain ⟨text, htext⟩ := Option.isSome_iff_exists.mp h
  rw [Source.expand_eq, lines?_source, htext]
  exact ⟨_, rfl⟩

/-- An include means the resource of the joined name, if that is there. -/
theorem resolve_eq_some_iff {resources : Resources} {current next found : String} :
    resources.source.resolve current next = some found ↔
      found = ResourceName.join current next ∧ resources.contains found := by
  simp only [source]
  split
  · rename_i hcontains
    rw [Option.some.injEq]
    constructor
    · rintro rfl
      exact ⟨rfl, hcontains⟩
    · rintro ⟨rfl, -⟩
      rfl
  · rename_i hmissing
    constructor
    · intro h
      cases h
    · rintro ⟨rfl, hcontains⟩
      exact absurd hcontains hmissing

/-- A chain of includes ends at a resource that is there. -/
theorem contains_of_leads {resources : Resources} {name found : String} {links : List Source.Link}
    (h : resources.source.Leads name links found) (hname : resources.contains name) :
    resources.contains found := by
  induction h with
  | here resource => exact hname
  | follow _ _ hresolve _ ih => exact ih (resolve_eq_some_iff.mp hresolve).2

end Resources

namespace Dictionary

/-- Lines without includes, loaded as a resource of their own, are carried out as they stand. -/
theorem load_textOf {lines : List (List Char)}
    (hlines : ∀ line ∈ lines, Line.Plain line) {plain : Resources}
    {name : String} (hname : plain.find? name = some (Line.textOf lines)) (dictionary : Dictionary) :
    ∃ loading, dictionary.load plain.source name = .ok loading ∧
      loading.dictionary = dictionary.perform (Line.statements lines) := by
  have hown : plain.source.lines? name = some lines := by
    rw [Resources.lines?_source, hname, Option.map_some,
      Line.lines_textOf fun line hline => (hlines line hline).noFeed]
  exact load_of_expand (Source.expand_of_plain hown fun line hline => (hlines line hline).noInclusion)
    dictionary

/-- Includes are inlined. For any embedded resources, however they include one another, loading one
that is there carries out one list of lines, in which no include is left, and makes the dictionary
that these lines make when they are loaded as a resource of their own. A chain of `maxIncludeDepth`
includes is followed to its end, and of a longer one the next include is left out, with all lines
around it in their places. -/
theorem includes_are_inlined (resources : Resources) (dictionary : Dictionary) (top : String)
    (hopens : resources.contains top) :
    ∃ lines, resources.source.expand maxIncludeDepth top = some lines ∧
      (∀ line ∈ lines, Line.isInclusion line = false) ∧
      (∃ loading, dictionary.load resources.source top = .ok loading ∧
        loading.dictionary = dictionary.perform (Line.statements lines) ∧
        ∀ (plain : Resources) name, plain.find? name = some (Line.textOf lines) →
          ∃ inlined, dictionary.load plain.source name = .ok inlined ∧
            inlined.dictionary = loading.dictionary) ∧
      ∀ links found, resources.source.Leads top links found →
        (links.length ≤ maxIncludeDepth →
          ∃ inner, resources.source.expand (maxIncludeDepth - links.length) found = some inner ∧
            lines = resources.source.nest maxIncludeDepth links inner) ∧
        (links.length = maxIncludeDepth + 1 →
          lines = resources.source.nest maxIncludeDepth links []) := by
  obtain ⟨lines, hlines⟩ := Resources.exists_expand hopens maxIncludeDepth
  have hplain : ∀ line ∈ lines, Line.Plain line := fun line => Source.plain_of_mem_expand hlines
  obtain ⟨loading, hloading, hperformed⟩ := load_of_expand hlines dictionary
  refine ⟨lines, hlines, fun line hline => (hplain line hline).noInclusion,
    ⟨loading, hloading, hperformed, ?_⟩, ?_⟩
  · intro plain name hname
    rw [hperformed]
    exact load_textOf hplain hname dictionary
  · intro links found hleads
    constructor
    · intro hlength
      obtain ⟨inner, hinner⟩ :=
        Resources.exists_expand (Resources.contains_of_leads hleads hopens)
          (maxIncludeDepth - links.length)
      have hnested := Source.expand_of_leads hleads hinner
      rw [Nat.sub_add_cancel hlength, hlines] at hnested
      exact ⟨inner, hinner, Option.some.inj hnested⟩
    · intro hlength
      have hnested := Source.expand_of_leads_too_deep hleads hlength
      rw [hlines] at hnested
      exact Option.some.inj hnested

/-- What stands around the include of itself in a resource. -/
def Sample.loop : Source.Link where
  resource := "loop"
  before := ["ATTRIBUTE First 1 string".toList]
  after := ["ATTRIBUTE Last 2 string".toList]

theorem sample_includes_are_inlined :
    ∃ lines loading inlined,
      empty.load Sample.resources.source "loop" = .ok loading ∧
      empty.load (Resources.source (Table.empty.insert "plain" (Line.textOf lines)))
        "plain" = .ok inlined ∧
      inlined.dictionary = loading.dictionary ∧
      lines = Sample.resources.source.nest maxIncludeDepth (List.replicate 17 Sample.loop) [] := by
  obtain ⟨lines, -, -, ⟨loading, hloading, -, hplain⟩, hchain⟩ :=
    includes_are_inlined Sample.resources empty "loop" (by decide +kernel)
  obtain ⟨inlined, hinlined, hsame⟩ := hplain _ "plain" (Table.find?_insert_self _ _ _)
  have hlines : Sample.resources.source.lines? "loop" =
      some (Sample.loop.before ++ "$INCLUDE ./loop".toList :: Sample.loop.after) := by
    decide +kernel
  have hcircle := Source.Leads.circle hlines
    (show Line.inclusion? _ = some "./loop" by decide +kernel)
    (by decide +kernel)
  exact ⟨lines, loading, inlined, hloading, hinlined, hsame, (hchain _ _ (hcircle 17)).2 rfl⟩

end Dictionary
end Radius
