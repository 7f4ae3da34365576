-- SUMMARY: The times at which a resource is opened while another one is loaded, and what is under way at each of its lines; a line that never changes the dictionary can be left out.
import Radius.Proofs.Dictionary.InPlace
import Radius.Proofs.Dictionary.Inlining

/-!
# Openings of resources

One resource may be opened many times while another is loaded, by several includes, at different
depths and with different dictionaries under way, and each of its lines is read once in each
opening, after the lines before it. `Loading.openings` lists them. So whatever a line does, it
does to `Opening.through` of the lines before it. If that leaves the dictionary alone in every
opening, the line can be left out of its resource: the numbers of later lines change, and what
they do does not depend on these.
-/

namespace Radius

namespace Loading

/-! ## Lines of an open resource -/

/-- What reads included resources where includes may go so many levels deep. -/
def reader? (source : Source) : (levels : Nat) → Option Reader
  | 0          => none
  | levels + 1 => some (readTo source levels)

theorem readTo_eq (source : Source) (levels : Nat) :
    readTo source levels = readResource source (reader? source levels) := by
  cases levels <;> rfl

/-- What reads includes performs what expands them. -/
theorem performs_reader? (source : Source) (levels : Nat) :
    Option.Rel Reader.Performs (reader? source levels) (source.expander? levels) := by
  cases levels with
  | zero => exact .none
  | succ levels => exact .some (performs_readTo source levels)

/-- A loading under way after lines of a resource have been read, of which the first has this
number. -/
def readLines (source : Source) (levels : Nat) (resource : String) (number : Nat)
    (lines : List (List Char)) (loading : Loading) : Loading :=
  ((lines.zipIdx number).filterMap Line.ofEntry).foldl
    (step source (reader? source levels) resource) loading

section

variable (source : Source) (levels : Nat) (resource : String) (number : Nat) (loading : Loading)

theorem readLines_append (front back : List (List Char)) :
    readLines source levels resource number (front ++ back) loading =
      readLines source levels resource (number + front.length) back
        (readLines source levels resource number front loading) := by
  rw [readLines, List.zipIdx_append, List.filterMap_append, List.foldl_append]
  rfl

theorem readLines_cons (line : List Char) (later : List (List Char)) :
    readLines source levels resource number (line :: later) loading =
      readLines source levels resource (number + 1) later
        (readLines source levels resource number [line] loading) :=
  readLines_append source levels resource number loading [line] later

theorem readLines_of_blank {line : List Char} (h : Line.tokensOf line = []) :
    readLines source levels resource number [line] loading = loading := by
  simp [readLines, Line.ofEntry, h]

theorem readLines_of_words {line : List Char} (h : Line.tokensOf line ≠ []) :
    readLines source levels resource number [line] loading =
      step source (reader? source levels) resource loading ⟨number, Line.tokensOf line⟩ := by
  have hentry : Line.ofEntry (line, number) = some ⟨number, Line.tokensOf line⟩ := by
    unfold Line.ofEntry
    split
    · contradiction
    · rfl
  rw [readLines, List.zipIdx_singleton, List.filterMap_cons, hentry]
  rfl

/-- Lines carry out what they stand for. -/
theorem dictionary_readLines (lines : List (List Char)) :
    (readLines source levels resource number lines loading).dictionary =
      loading.dictionary.perform (Line.statements
        (lines.flatMap (source.expandLine (source.expander? levels) resource))) :=
  dictionary_foldl_step source (performs_reader? source levels) resource lines number loading

end

/-- The remarks made since another loading was under way, the latest first. -/
def since (after before : Loading) : List LoadRemark :=
  after.journal.take (after.journal.length - before.journal.length)

end Loading

/-! ## Openings -/

/-- A resource that is opened, how many levels deep its includes may go, and what is under way. -/
structure Opening where
  resource : String
  levels : Nat
  loading : Loading

/-- What is under way after the first lines of the resource. -/
def Opening.through (source : Source) (opening : Opening) (lines : List (List Char)) : Loading :=
  Loading.readLines source opening.levels opening.resource 1 lines opening.loading

theorem Opening.through_concat (source : Source) (opening : Opening) (lines : List (List Char))
    (line : List Char) :
    opening.through source (lines ++ [line]) =
      Loading.readLines source opening.levels opening.resource (1 + lines.length) [line]
        (opening.through source lines) :=
  Loading.readLines_append ..

namespace Loading

/-- Lists the openings while a resource is read into a loading under way. -/
abbrev Lister := (resource : String) → Loading → List Opening

/-- The openings that one line of a resource brings about: those of the resource it includes. -/
def openingsBelow (source : Source) (below : Option Lister) (resource : String) (number : Nat)
    (line : List Char) (loading : Loading) : List Opening :=
  match below, (Line.inclusion? line).bind (source.resolve resource) with
  | some list, some found =>
      list found (loading.remarkTrailing resource ⟨number, Line.tokensOf line⟩ .inclusion)
  | _, _ => []

/-- The openings that lines of a resource bring about. -/
def openingsIn (source : Source) (below : Option Lister) (levels : Nat) (resource : String) :
    (number : Nat) → (lines : List (List Char)) → Loading → List Opening
  | _,      [],            _       => []
  | number, line :: later, loading =>
      openingsBelow source below resource number line loading ++
        openingsIn source below levels resource (number + 1) later
          (readLines source levels resource number [line] loading)

/-- The openings of a resource and of all that its lines include. -/
def openingsOf (source : Source) (below : Option Lister) (levels : Nat) : Lister :=
  fun resource loading =>
    match source.lines? resource with
    | none       => []
    | some lines =>
        ⟨resource, levels, loading⟩ :: openingsIn source below levels resource 1 lines loading

/-- The openings while a resource is read whose includes may go so many levels deep. -/
def openings (source : Source) : (levels : Nat) → Lister
  | 0          => openingsOf source none 0
  | levels + 1 => openingsOf source (some (openings source levels)) (levels + 1)

/-- What lists the openings of included resources. -/
def lister? (source : Source) : (levels : Nat) → Option Lister
  | 0          => none
  | levels + 1 => some (openings source levels)

theorem openings_eq (source : Source) (levels : Nat) :
    openings source levels = openingsOf source (lister? source levels) levels := by
  cases levels <;> rfl

theorem openingsIn_append (source : Source) (below : Option Lister) (levels : Nat)
    (resource : String) (number : Nat) (front back : List (List Char)) (loading : Loading) :
    openingsIn source below levels resource number (front ++ back) loading =
      openingsIn source below levels resource number front loading ++
        openingsIn source below levels resource (number + front.length) back
          (readLines source levels resource number front loading) := by
  induction front generalizing number loading with
  | nil => rfl
  | cons line front ih =>
      rw [List.cons_append, openingsIn, ih, openingsIn, List.append_assoc, List.length_cons,
        readLines_cons source levels resource number loading line front, Nat.add_assoc,
        Nat.add_comm 1]

/-- Below a resource, other statements have been carried out before. -/
theorem exists_perform_of_mem_openingsIn {source : Source} {below : Option Lister} {levels : Nat}
    {resource : String} {number : Nat} {lines : List (List Char)} {loading : Loading}
    {opening : Opening}
    (hbelow : ∀ list ∈ below, ∀ found (loading : Loading), opening ∈ list found loading →
      ∃ statements, opening.loading.dictionary = loading.dictionary.perform statements)
    (h : opening ∈ openingsIn source below levels resource number lines loading) :
    ∃ statements, opening.loading.dictionary = loading.dictionary.perform statements := by
  induction lines generalizing number loading with
  | nil => cases h
  | cons line later ih =>
      rcases List.mem_append.mp h with hline | hlater
      · unfold openingsBelow at hline
        split at hline
        · rename_i list found hlist
          rw [← dictionary_remarkTrailing resource ⟨number, Line.tokensOf line⟩ .inclusion loading]
          exact hbelow list rfl found _ hline
        · cases hline
      · obtain ⟨statements, hstatements⟩ := ih hlater
        rw [dictionary_readLines, ← Dictionary.perform_append] at hstatements
        exact ⟨_, hstatements⟩

/-- When a resource is opened, statements have been carried out on the dictionary at the start. -/
theorem exists_perform_of_mem_openings {source : Source} {levels : Nat} {resource : String}
    {loading : Loading} {opening : Opening}
    (h : opening ∈ openings source levels resource loading) :
    ∃ statements, opening.loading.dictionary = loading.dictionary.perform statements := by
  induction levels using Nat.strongRecOn generalizing resource loading with
  | ind levels ih =>
      rw [openings_eq, openingsOf] at h
      split at h
      · cases h
      · rcases List.mem_cons.mp h with rfl | hbelow
        · exact ⟨[], rfl⟩
        · refine exists_perform_of_mem_openingsIn (fun list hlist found loading hmem => ?_) hbelow
          cases levels with
          | zero => cases hlist
          | succ levels =>
              cases hlist
              exact ih levels (Nat.lt_succ_self levels) hmem

end Loading

/-! ## Leaving a line out -/

/-- What a line expands to has the same meaning in two sources if what it includes has. -/
theorem Source.expandLine_congr {α : Type} {source changed : Source}
    (meaning : List (List Char) → α) (hresolve : changed.resolve = source.resolve) {levels : Nat}
    {resource : String} {line : List Char}
    (hbelow : ∀ below target found, levels = below + 1 → Line.inclusion? line = some target →
      source.resolve resource target = some found →
      (changed.expand below found).map meaning = (source.expand below found).map meaning) :
    meaning (changed.expandLine (changed.expander? levels) resource line) =
      meaning (source.expandLine (source.expander? levels) resource line) := by
  unfold expandLine
  split
  swap
  · rfl
  rw [hresolve]
  cases hinclusion : Line.inclusion? line with
  | none => rfl
  | some target =>
      cases levels with
      | zero => rfl
      | succ below =>
          simp only [expander?, Option.bind_some]
          cases hfound : source.resolve resource target with
          | none => rfl
          | some found =>
              have hmeaning := hbelow below target found rfl hinclusion hfound
              -- Both expand to something or both to nothing.
              cases hchanged : changed.expand below found with
              | none =>
                  rw [hchanged, Option.map_none, eq_comm, Option.map_eq_none_iff] at hmeaning
                  simp [hchanged, hmeaning]
              | some lines =>
                  rw [hchanged, Option.map_some, eq_comm, Option.map_eq_some_iff] at hmeaning
                  obtain ⟨lines', hlines', hsame⟩ := hmeaning
                  simp [hchanged, hlines', hsame]

/-- Sources that differ in one line of one resource, which the second of them lacks. -/
structure Source.Omits (source shorter : Source) (name : String) (before : List (List Char))
    (line : List Char) (after : List (List Char)) : Prop where
  resolve_eq : shorter.resolve = source.resolve
  lines_eq : source.lines? name = some (before ++ line :: after)
  shorter_eq : shorter.lines? name = some (before ++ after)
  others_eq : ∀ other, other ≠ name → shorter.lines? other = source.lines? other

/-- In an opening of the resource, the line behind these ones does not change the dictionary. -/
def Opening.IdleAt (source : Source) (name : String) (before : List (List Char)) (line : List Char)
    (opening : Opening) : Prop :=
  opening.resource = name →
    (opening.through source (before ++ [line])).dictionary =
      (opening.through source before).dictionary

namespace Source.Omits

variable {source shorter : Source} {name : String} {before after : List (List Char)}
  {line : List Char}

/-- Without the line, a resource so many levels above the deepest comes to the same if the line is
idle in all its openings. -/
def Agree (source shorter : Source) (name : String) (before : List (List Char)) (line : List Char)
    (levels : Nat) : Prop :=
  ∀ resource (loading : Loading),
    (∀ opening ∈ Loading.openings source levels resource loading,
      opening.IdleAt source name before line) →
    (shorter.expand levels resource).map (fun lines =>
        loading.dictionary.perform (Line.statements lines)) =
      (source.expand levels resource).map (fun lines =>
        loading.dictionary.perform (Line.statements lines))

variable (h : source.Omits shorter name before line after) {levels : Nat}
  (hbelow : ∀ below, levels = below + 1 → Agree source shorter name before line below)
include h hbelow

theorem perform_expandLine {resource : String} {number : Nat} {own : List Char} {loading : Loading}
    (hidle : ∀ opening ∈ Loading.openingsBelow source (Loading.lister? source levels) resource
      number own loading, opening.IdleAt source name before line) :
    loading.dictionary.perform (Line.statements
        (shorter.expandLine (shorter.expander? levels) resource own)) =
      loading.dictionary.perform (Line.statements
        (source.expandLine (source.expander? levels) resource own)) := by
  refine expandLine_congr (fun lines => loading.dictionary.perform (Line.statements lines))
    h.resolve_eq fun below target found hlevels hinclusion hresolve => ?_
  subst hlevels
  have hopenings : Loading.openingsBelow source (Loading.lister? source (below + 1)) resource
      number own loading = Loading.openings source below found
        (loading.remarkTrailing resource ⟨number, Line.tokensOf own⟩ .inclusion) := by
    unfold Loading.openingsBelow
    rw [hinclusion, Option.bind_some, hresolve]
    rfl
  rw [hopenings] at hidle
  have hagree := hbelow below rfl found _ hidle
  rwa [Loading.dictionary_remarkTrailing] at hagree

theorem perform_lines {resource : String} {number : Nat} {lines : List (List Char)}
    {loading : Loading}
    (hidle : ∀ opening ∈ Loading.openingsIn source (Loading.lister? source levels) levels resource
      number lines loading, opening.IdleAt source name before line) :
    loading.dictionary.perform (Line.statements
        (lines.flatMap (shorter.expandLine (shorter.expander? levels) resource))) =
      (Loading.readLines source levels resource number lines loading).dictionary := by
  induction lines generalizing number loading with
  | nil => rfl
  | cons own later ih =>
      obtain ⟨hown, hlater⟩ := List.forall_mem_append.mp hidle
      rw [Loading.readLines_cons, ← ih hlater, List.flatMap_cons, Line.statements_append,
        Dictionary.perform_append, perform_expandLine h hbelow hown,
        Loading.dictionary_readLines, List.flatMap_singleton]

theorem agree_of_below : Agree source shorter name before line levels := by
  intro resource loading hidle
  rw [Loading.openings_eq, Loading.openingsOf] at hidle
  rw [expand_eq, expand_eq]
  by_cases hname : resource = name
  · subst hname
    rw [h.lines_eq] at hidle
    rw [h.lines_eq, h.shorter_eq, Option.map_some, Option.map_some, Option.map_some,
      Option.map_some]
    obtain ⟨hhere, hlines⟩ := List.forall_mem_cons.mp hidle
    rw [Loading.openingsIn_append] at hlines
    obtain ⟨hbefore, hrest⟩ := List.forall_mem_append.mp hlines
    obtain ⟨-, hafter⟩ := List.forall_mem_append.mp hrest
    -- The lines after the one that is left out start from the dictionary that it was read with.
    have hsame : (Loading.readLines source levels resource 1 before loading).dictionary =
        (Loading.readLines source levels resource (1 + before.length) [line]
          (Loading.readLines source levels resource 1 before loading)).dictionary := by
      rw [← Loading.readLines_append]
      exact (hhere rfl).symm
    rw [← Loading.dictionary_readLines source levels resource 1, List.flatMap_append,
      Line.statements_append, Dictionary.perform_append, perform_lines h hbelow hbefore, hsame,
      perform_lines h hbelow hafter, Loading.readLines_append,
      Loading.readLines_cons source levels resource _ _ line after]
  · rw [h.others_eq resource hname]
    cases hlines : source.lines? resource with
    | none => rfl
    | some lines =>
        rw [hlines] at hidle
        simp only [Option.map_some, Option.some.injEq]
        rw [perform_lines h hbelow (List.forall_mem_cons.mp hidle).2,
          Loading.dictionary_readLines]

omit hbelow in
/-- Leaving out a line that is always idle changes nothing. -/
theorem agree (levels : Nat) : Agree source shorter name before line levels := by
  induction levels using Nat.strongRecOn with
  | ind levels ih => exact agree_of_below h fun below hbelow => ih below (by omega)

end Source.Omits

/-! ## Embedded resources -/

namespace Resources

/-- Loading fails only for a name that the resources lack. -/
theorem fault_of_load {resources : Resources} {dictionary : Dictionary} {top : String}
    {fault : DictionaryError} (h : dictionary.load resources.source top = .error fault) :
    fault = .unreadable top (.noResource top) := by
  obtain ⟨cause, hcause, rfl⟩ := Loading.readTo_eq_error_iff.mp h
  simp only [source] at hcause
  split at hcause
  · cases hcause
  · cases hcause
    rfl

/-- Resources of the same names mean the same by an include. -/
theorem resolve_source {resources changed : Resources}
    (hnames : ∀ name, changed.contains name = resources.contains name) :
    changed.source.resolve = resources.source.resolve := by
  funext current next
  simp only [source, hnames]

/-- Loading leaves the same if the lines that the resource stands for make the same dictionary. -/
theorem outcome_load_eq {resources changed : Resources} {dictionary : Dictionary} {top : String}
    (hlines : (changed.source.expand maxIncludeDepth top).map (fun lines =>
        dictionary.perform (Line.statements lines)) =
      (resources.source.expand maxIncludeDepth top).map (fun lines =>
        dictionary.perform (Line.statements lines))) :
    Dictionary.Update.outcome (Dictionary.Update.load changed.source top) dictionary =
      Dictionary.Update.outcome (Dictionary.Update.load resources.source top) dictionary := by
  have hloads := Dictionary.load_dictionary dictionary changed.source top
  rw [hlines, ← Dictionary.load_dictionary] at hloads
  rw [Dictionary.Update.outcome_load, Dictionary.Update.outcome_load]
  congr 1
  cases hchanged : dictionary.load changed.source top with
  | error fault =>
      rw [hchanged] at hloads
      cases hload : dictionary.load resources.source top with
      | error fault' => rw [fault_of_load hchanged, fault_of_load hload]
      | ok loading =>
          rw [hload] at hloads
          cases hloads
  | ok loading =>
      rw [hchanged, Except.toOption, Option.map_some, eq_comm] at hloads
      obtain ⟨loading', hloading', hsame⟩ := Option.map_eq_some_iff.mp hloads
      rw [Except.toOption_eq_some_iff.mp hloading', Except.map, Except.map, hsame]

/-- Loading leaves the same if under each name there are texts that make the same statements. -/
theorem outcome_load_congr {resources changed : Resources} {r : String → String → Prop}
    (hsame : ∀ {text text'}, r text text' →
      Line.statements (Layout.lines text'.toList) = Line.statements (Layout.lines text.toList))
    (htexts : ∀ name, Option.Rel r (resources.find? name) (changed.find? name))
    (dictionary : Dictionary) (top : String) :
    Dictionary.Update.outcome (Dictionary.Update.load changed.source top) dictionary =
      Dictionary.Update.outcome (Dictionary.Update.load resources.source top) dictionary := by
  have hnames : ∀ name, changed.contains name = resources.contains name := by
    intro name
    have hname := htexts name
    rw [Table.contains, Table.contains]
    generalize resources.find? name = text, changed.find? name = text' at hname
    cases hname <;> rfl
  have hlines : ∀ name, (changed.source.lines? name).map Line.statements =
      (resources.source.lines? name).map Line.statements := by
    intro name
    have hname := htexts name
    rw [lines?_source, lines?_source]
    generalize resources.find? name = text, changed.find? name = text' at hname ⊢
    cases hname with
    | none => rfl
    | some htext => exact congrArg some (hsame htext)
  have hstatements := Source.statements_expand_congr (resolve_source hnames) hlines maxIncludeDepth
    top
  have hperformed := congrArg (Option.map (dictionary.perform ·)) hstatements
  rw [Option.map_map, Option.map_map] at hperformed
  exact outcome_load_eq hperformed

/-- The resources with another text for one of them, which lacks one line. -/
theorem omits_insert {resources : Resources} {name text shorter : String}
    {before after : List (List Char)} {line : List Char} (htext : resources.find? name = some text)
    (hlines : Layout.lines text.toList = before ++ line :: after)
    (hshorter : Layout.lines shorter.toList = before ++ after) :
    resources.source.Omits (Resources.source (resources.insert name shorter)) name before line
      after where
  resolve_eq := by
    refine resolve_source fun other => ?_
    rw [Table.contains, Table.contains, Table.find?_insert]
    split
    · rename_i hsame
      rw [hsame, htext]
      rfl
    · rfl
  lines_eq := by rw [lines?_source, htext, Option.map_some, hlines]
  shorter_eq := by rw [lines?_source, Table.find?_insert_self, Option.map_some, hshorter]
  others_eq other hother := by
    rw [lines?_source, lines?_source, Table.find?_insert_of_ne resources shorter hother]

/-- A line that is idle whenever it is read can be left out. -/
theorem outcome_load_insert {resources : Resources} {name text shorter : String}
    {before after : List (List Char)} {line : List Char} (htext : resources.find? name = some text)
    (hlines : Layout.lines text.toList = before ++ line :: after)
    (hshorter : Layout.lines shorter.toList = before ++ after) {dictionary : Dictionary}
    {top : String}
    (hidle : ∀ opening ∈ Loading.openings resources.source maxIncludeDepth top ⟨dictionary, []⟩,
      opening.IdleAt resources.source name before line) :
    Dictionary.Update.outcome (Dictionary.Update.load
        (Resources.source (resources.insert name shorter)) top) dictionary =
      Dictionary.Update.outcome (Dictionary.Update.load resources.source top) dictionary :=
  outcome_load_eq ((omits_insert htext hlines hshorter).agree maxIncludeDepth top ⟨dictionary, []⟩
    hidle)

end Resources

end Radius
