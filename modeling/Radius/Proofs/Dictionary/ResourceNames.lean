-- SUMMARY: A joined resource name is normal and stays below the root, and an include of an include means the same as one include by the joined path.
import Radius.Proofs.Dictionary.Inlining
import Radius.Proofs.Text.Segments

/-!
# Names of embedded resources

A joined name is found by a walk, which begins in the directory of the resource that holds the
include, or at the root, and follows the segments of the next name one by one. What holds of the
segments of the directory, and of those that are followed, holds of all on the way. The name is
the walk written down, and no segment on it is empty or has a slash, so the walk can be read from
the name again. That is why two includes can be made one.
-/

namespace Radius.ResourceName

/-! ## Normal names -/

/-- A segment that can be read from a joined name again. -/
structure IsPart (segment : List Char) : Prop where
  ne_nil : segment ≠ []
  noSlash : '/' ∉ segment

/-- A segment that names a file or a directory by itself. -/
structure IsName (segment : List Char) : Prop extends IsPart segment where
  ne_dot : segment ≠ ['.']
  ne_dots : segment ≠ ['.', '.']

/-- The segments of a name; the empty name has none. -/
def parts (name : String) : List (List Char) := if name = "" then [] else segments name.toList

/-- No segment of the name is empty, a dot or two dots. -/
def Normal (name : String) : Prop := ∀ segment ∈ parts name, IsName segment

/-- No segment of the directory in which the resource stands is a dot or two dots. -/
def InPlainDirectory (name : String) : Prop :=
  ∀ segment ∈ (segments name.toList).dropLast, segment ≠ ['.'] ∧ segment ≠ ['.', '.']

theorem Normal.inPlainDirectory {name : String} (h : Normal name) : InPlainDirectory name := by
  intro segment hsegment
  by_cases hempty : name = ""
  · subst hempty
    cases hsegment
  · have hname : IsName segment := by
      apply h
      rw [parts, if_neg hempty]
      exact List.dropLast_subset _ hsegment
    exact ⟨hname.ne_dot, hname.ne_dots⟩

theorem parts_joinSegments {path : List (List Char)} (h : ∀ segment ∈ path, IsPart segment) :
    parts (String.ofList (joinSegments path)) = path := by
  cases path with
  | nil => rfl
  | cons segment later =>
      have hsegment := (h segment List.mem_cons_self).ne_nil
      have hne : String.ofList (joinSegments (segment :: later)) ≠ "" := by
        intro hempty
        have hhead := head?_joinSegments hsegment later
        rw [← String.toList_ofList (l := joinSegments _), hempty] at hhead
        exact hsegment (List.head?_eq_none_iff.mp hhead.symm)
      rw [parts, if_neg hne, String.toList_ofList]
      exact segments_joinSegments (List.cons_ne_nil _ _) fun other hother => (h other hother).noSlash

/-! ## Walks -/

/-- Where a walk to `next` begins. -/
def start (current next : String) : List (List Char) :=
  if next.toList.head? = some '/' then [] else directory current.toList

/-- The path from the root to `next`, the last segment first. -/
def walk (current next : String) : List (List Char) :=
  (segments next.toList).foldl follow (start current next)

theorem join_eq (current next : String) :
    join current next = String.ofList (joinSegments (walk current next).reverse) := rfl

section

variable {P : List Char → Prop}

theorem forall_mem_follow {path : List (List Char)} {segment : List Char} (hpath : ∀ s ∈ path, P s)
    (hsegment : segment ≠ [] → segment ≠ ['.'] → segment ≠ ['.', '.'] → P segment) :
    ∀ s ∈ follow path segment, P s := by
  unfold follow
  split
  · exact hpath
  rename_i hplain
  obtain ⟨hne, hdot⟩ := not_or.mp hplain
  split
  · exact fun s hs => hpath s (List.mem_of_mem_tail hs)
  · rename_i hdots
    exact List.forall_mem_cons.mpr ⟨hsegment hne hdot hdots, hpath⟩

theorem forall_mem_foldl_follow {path taken : List (List Char)} (hpath : ∀ s ∈ path, P s)
    (htaken : ∀ s ∈ taken, s ≠ [] → s ≠ ['.'] → s ≠ ['.', '.'] → P s) :
    ∀ s ∈ taken.foldl follow path, P s := by
  induction taken generalizing path with
  | nil => exact hpath
  | cons segment later ih =>
      obtain ⟨hsegment, hlater⟩ := List.forall_mem_cons.mp htaken
      exact ih (forall_mem_follow hpath hsegment) hlater

/-- What holds of the segments of a directory and of those of a name that are no dots holds of
those on the walk. -/
theorem forall_mem_walk {current next : String} (hcurrent : ∀ s ∈ directory current.toList, P s)
    (hnext : ∀ s ∈ segments next.toList, s ≠ [] → s ≠ ['.'] → s ≠ ['.', '.'] → P s) :
    ∀ s ∈ walk current next, P s := by
  refine forall_mem_foldl_follow ?_ hnext
  unfold start
  split
  · exact List.forall_mem_nil _
  · exact hcurrent

end

theorem mem_directory {text segment : List Char} (h : segment ∈ directory text) :
    segment ≠ [] ∧ segment ∈ (segments text).dropLast := by
  obtain ⟨hmem, hne⟩ := List.mem_filter.mp h
  exact ⟨of_decide_eq_true hne, List.mem_reverse.mp hmem⟩

theorem isPart_of_mem_directory {text segment : List Char} (h : segment ∈ directory text) :
    IsPart segment := by
  obtain ⟨hne, hmem⟩ := mem_directory h
  exact ⟨hne, slash_not_mem_of_mem_segments (List.dropLast_subset _ hmem)⟩

theorem isPart_of_mem_walk {current next : String} :
    ∀ segment ∈ walk current next, IsPart segment :=
  forall_mem_walk (fun _ h => isPart_of_mem_directory h)
    fun _ h hne _ _ => ⟨hne, slash_not_mem_of_mem_segments h⟩

/-- The walk is read from the name. -/
theorem parts_join (current next : String) :
    parts (join current next) = (walk current next).reverse :=
  parts_joinSegments fun segment h => isPart_of_mem_walk segment (List.mem_reverse.mp h)

theorem normal_join {current : String} (h : InPlainDirectory current) (next : String) :
    Normal (join current next) := by
  rw [Normal, parts_join]
  intro segment hsegment
  have hwalk : ∀ s ∈ walk current next, IsName s := by
    refine forall_mem_walk (fun s hs => ?_) fun s hs hne hdot hdots =>
      ⟨⟨hne, slash_not_mem_of_mem_segments hs⟩, hdot, hdots⟩
    obtain ⟨hdot, hdots⟩ := h s (mem_directory hs).2
    exact ⟨isPart_of_mem_directory hs, hdot, hdots⟩
  exact hwalk segment (List.mem_reverse.mp hsegment)

/-! ## Chains of includes -/

/-- Includes lead from a normal name to normal names only. -/
theorem normal_of_leads {resources : Resources} {top found : String} {links : List Source.Link}
    (h : resources.source.Leads top links found) (hnormal : Normal top) : Normal found := by
  induction h with
  | here top => exact hnormal
  | follow _ _ hresolve _ ih =>
      obtain ⟨rfl, -⟩ := Resources.resolve_eq_some_iff.mp hresolve
      exact ih (normal_join hnormal.inPlainDirectory _)

/-! ## Going up -/

/-- A file as many directories up. -/
def above (count : Nat) (file : List Char) : String :=
  String.ofList (joinSegments (List.replicate count ['.', '.'] ++ [file]))

theorem foldl_follow_dots (path : List (List Char)) (count : Nat) :
    (List.replicate count ['.', '.']).foldl follow path = path.drop count := by
  induction count generalizing path with
  | zero => rfl
  | succ count ih =>
      rw [List.replicate_succ, List.foldl_cons, ih, ← List.drop_tail]
      rfl

theorem follow_of_isName {path : List (List Char)} {segment : List Char} (h : IsName segment) :
    follow path segment = segment :: path := by
  rw [follow, if_neg (not_or.mpr ⟨h.ne_nil, h.ne_dot⟩), if_neg h.ne_dots]

theorem segments_above {count : Nat} {file : List Char} (h : '/' ∉ file) :
    segments (above count file).toList = List.replicate count ['.', '.'] ++ [file] := by
  rw [above, String.toList_ofList]
  refine segments_joinSegments (List.concat_ne_nil _ _) fun segment hsegment => ?_
  rcases List.mem_append.mp hsegment with hdots | hfile
  · rw [List.eq_of_mem_replicate hdots]
    decide
  · rwa [List.mem_singleton.mp hfile]

theorem start_above {count : Nat} {file : List Char} (h : IsName file) (current : String) :
    start current (above count file) = directory current.toList := by
  have hhead : (above count file).toList.head? ≠ some '/' := by
    rw [above, String.toList_ofList]
    cases count with
    | zero => exact fun hslash => h.noSlash (List.mem_of_mem_head? hslash)
    | succ count =>
        rw [List.replicate_succ, List.cons_append, head?_joinSegments (List.cons_ne_nil _ _)]
        decide
  rw [start, if_neg hhead]

/-- Every step up leaves the last directory, and none is left at the root. -/
theorem parts_join_above {file : List Char} (h : IsName file) (current : String) (count : Nat) :
    parts (join current (above count file)) =
      ((directory current.toList).drop count).reverse ++ [file] := by
  rw [parts_join, walk, segments_above h.noSlash, start_above h, List.foldl_append,
    foldl_follow_dots, List.foldl_cons, List.foldl_nil, follow_of_isName h, List.reverse_cons]

/-! ## One include for two -/

theorem directory_joinSegments {path : List (List Char)} {last : List Char}
    (hpath : ∀ segment ∈ path, IsPart segment) (hlast : IsPart last) :
    directory (joinSegments (last :: path).reverse) = path := by
  have hslash : ∀ segment ∈ (last :: path).reverse, '/' ∉ segment := by
    intro segment hsegment
    rcases List.mem_cons.mp (List.mem_reverse.mp hsegment) with rfl | hmem
    · exact hlast.noSlash
    · exact (hpath segment hmem).noSlash
  have hne : (last :: path).reverse ≠ [] := List.reverse_ne_nil_iff.mpr (List.cons_ne_nil _ _)
  rw [directory, segments_joinSegments hne hslash, List.reverse_cons, List.dropLast_concat,
    List.reverse_reverse, List.filter_eq_self]
  exact fun segment hsegment => decide_eq_true (hpath segment hsegment).ne_nil

/-- A walk to a path goes on from its directory. -/
theorem walk_append (current path next : String) :
    walk current (path ++ "/" ++ next) =
      (segments next.toList).foldl follow (walk current (path ++ "/")) := by
  have hhead : (path ++ "/" ++ next).toList.head? = (path ++ "/").toList.head? := by simp
  have hstart : start current (path ++ "/" ++ next) = start current (path ++ "/") := by
    rw [start, start, hhead]
  have hsegments : segments (path ++ "/" ++ next).toList =
      segments path.toList ++ segments next.toList := by
    simp [segments_append_slash]
  have hdirectory : segments (path ++ "/").toList = segments path.toList ++ [[]] := by
    simp [segments_append_slash, segments]
  rw [walk, walk, hstart, hsegments, hdirectory, List.foldl_append, List.foldl_append]
  rfl

theorem join_join {file : List Char} (hfile : IsName file) {next : String}
    (hnext : next.toList.head? ≠ some '/') (current path : String) :
    join (join current (path ++ "/" ++ String.ofList file)) next =
      join current (path ++ "/" ++ next) := by
  have hwalk : walk current (path ++ "/" ++ String.ofList file) =
      file :: walk current (path ++ "/") := by
    rw [walk_append, String.toList_ofList, segments_of_slash_not_mem hfile.noSlash, List.foldl_cons,
      List.foldl_nil, follow_of_isName hfile]
  have hstart : start (join current (path ++ "/" ++ String.ofList file)) next =
      walk current (path ++ "/") := by
    rw [start, if_neg hnext, join_eq, hwalk, String.toList_ofList,
      directory_joinSegments isPart_of_mem_walk hfile.toIsPart]
  rw [join_eq _ next, join_eq current (path ++ "/" ++ next), walk, hstart, walk_append]

/-- Includes by relative names, from a resource in whose directory no segment is a dot or two dots.
The name of any include is normal, and so is the name of any resource to which includes lead. A
step up from the root stays there. An absolute name means the same in every resource. And an include
in an included resource means what the resource itself would include by both paths in a row. -/
theorem joined_names_stay_normal {current : String} (h : InPlainDirectory current) :
    (∀ next, Normal (join current next)) ∧
    (∀ (resources : Resources) links found, resources.source.Leads current links found →
      links ≠ [] → Normal found) ∧
    (∀ file, IsName file → ∀ count, parts (join current (above count file)) =
      ((directory current.toList).drop count).reverse ++ [file]) ∧
    (∀ next, next.toList.head? = some '/' → ∀ other, join other next = join current next) ∧
    ∀ path file next, IsName file → next.toList.head? ≠ some '/' →
      join (join current (path ++ "/" ++ String.ofList file)) next =
        join current (path ++ "/" ++ next) := by
  refine ⟨normal_join h, ?_, fun file hfile => parts_join_above hfile current, ?_,
    fun path file next hfile hnext => join_join hfile hnext current path⟩
  · intro resources links found hleads hlinks
    cases hleads with
    | here => exact absurd rfl hlinks
    | follow _ _ hresolve hlater =>
        obtain ⟨rfl, -⟩ := Resources.resolve_eq_some_iff.mp hresolve
        exact normal_of_leads hlater (normal_join h _)
  · intro next habsolute other
    rw [join_eq, join_eq, walk, walk, start, start, if_pos habsolute, if_pos habsolute]

theorem sample_joined_names_stay_normal :
    Normal "door" ∧
      parts (join "vendor/acme" (above 3 "door".toList)) = ["door".toList] ∧
      join "main" "/vendor/acme" = join "vendor/acme" "/vendor/acme" ∧
      join (join "vendor/acme" "..//more/./acme") "../door" =
        join "vendor/acme" "..//more/./../door" := by
  have hplain : InPlainDirectory "vendor/acme" := by
    unfold InPlainDirectory
    decide
  obtain ⟨-, hleads, hclimbs, habsolute, hjoins⟩ := joined_names_stay_normal hplain
  have hdoor : IsName "door".toList := ⟨⟨by decide, by decide⟩, by decide, by decide⟩
  have hacme : IsName "acme".toList := ⟨⟨by decide, by decide⟩, by decide, by decide⟩
  have hlines : Dictionary.Sample.resources.source.lines? "vendor/acme" =
      some (["VENDOR 9 Acme", "VENDORATTR 9 Role 1 string"].map String.toList ++
        "$include ../door".toList :: []) := by
    decide +kernel
  have hinclusion : Line.inclusion? "$include ../door".toList = some "../door" := by decide +kernel
  have hresolve : Dictionary.Sample.resources.source.resolve "vendor/acme" "../door" =
      some "door" := by
    decide +kernel
  have hlink := Source.Leads.follow hlines hinclusion hresolve (.here "door")
  have hpath : "..//more/." ++ "/" ++ String.ofList "acme".toList = "..//more/./acme" := by
    decide +kernel
  have hnext : "..//more/." ++ "/" ++ "../door" = "..//more/./../door" := by decide +kernel
  have hjoined := hjoins "..//more/." _ "../door" hacme (by decide)
  rw [hpath, hnext] at hjoined
  have habove := hclimbs _ hdoor 3
  rw [List.drop_of_length_le (by decide +kernel)] at habove
  exact ⟨hleads _ _ "door" hlink (List.cons_ne_nil _ _), habove,
    habsolute "/vendor/acme" (by decide) "main", hjoined⟩

end Radius.ResourceName
