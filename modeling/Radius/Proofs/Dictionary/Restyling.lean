-- SUMMARY: Dictionary text makes the same dictionary with other line ends, other white space, keywords in another case, and words behind those that a line needs.
import Mathlib.Logic.Relation
import Radius.Proofs.Dictionary.Skipping

/-!
# The style of dictionary text

A line is carried out for the statement that its words make. White space around the words is no
part of that, and neither is the carriage return in front of a line feed. A directive is the same
in any case, a kind is the same in any case, and words behind the last one that a directive needs
are not looked at. So a text says the same however it is laid out, and resources that are laid out
in another way make the same dictionary.

Letters change their case within ASCII only. White space may be of any kind, as long as it does not
end the line.
-/

namespace Radius

/-! ## Case -/

namespace Layout

/-- A text with some letters in the other case. -/
def Recased (text recased : List Char) : Prop :=
  List.Forall₂ (fun c d => d = c ∨ d = c.toUpper ∨ d = c.toLower) text recased

theorem case_of_not_ascii {c : Char} (h : 128 ≤ c.toNat) : c.toUpper = c ∧ c.toLower = c := by
  have hval : 128 ≤ c.val.toNat := h
  constructor
  · refine dif_neg fun hletter => ?_
    have hlast : c.val.toNat ≤ 122 := UInt32.le_iff_toNat_le.mp hletter.2
    omega
  · refine dif_neg fun hletter => ?_
    have hlast : c.val.toNat ≤ 90 := UInt32.le_iff_toNat_le.mp hletter.2
    omega

/-- A letter in the other case is the same letter in upper case, and in lower case. -/
theorem case_of_recased {c d : Char} (h : d = c ∨ d = c.toUpper ∨ d = c.toLower) :
    d.toUpper = c.toUpper ∧ d.toLower = c.toLower := by
  by_cases hc : c.toNat < 128
  · have hascii : ∀ n < 128,
        ((Char.ofNat n).toUpper.toUpper = (Char.ofNat n).toUpper ∧
          (Char.ofNat n).toUpper.toLower = (Char.ofNat n).toLower) ∧
        (Char.ofNat n).toLower.toUpper = (Char.ofNat n).toUpper ∧
          (Char.ofNat n).toLower.toLower = (Char.ofNat n).toLower := by
      decide +kernel
    have hletter := hascii c.toNat hc
    rw [Char.ofNat_toNat] at hletter
    rcases h with rfl | rfl | rfl
    · exact ⟨rfl, rfl⟩
    · exact hletter.1
    · exact hletter.2
  · obtain ⟨hupper, hlower⟩ := case_of_not_ascii (Nat.le_of_not_lt hc)
    rw [hupper, hlower, or_self, or_self] at h
    rw [h, hupper, hlower, and_self]

theorem upper_of_recased {text recased : List Char} (h : Recased text recased) :
    upper recased = upper text := by
  induction h with
  | nil => rfl
  | cons hletter _ ih =>
      simp only [upper, List.map_cons] at ih ⊢
      rw [ih, (case_of_recased hletter).1]

theorem lower_of_recased {text recased : List Char} (h : Recased text recased) :
    lower recased = lower text := by
  induction h with
  | nil => rfl
  | cons hletter _ ih =>
      simp only [lower, List.map_cons] at ih ⊢
      rw [ih, (case_of_recased hletter).2]

end Layout

theorem Kind.ofTypeName_of_recased {name recased : List Char} (h : Layout.Recased name recased) :
    Kind.ofTypeName (String.ofList recased) = Kind.ofTypeName (String.ofList name) := by
  rw [Kind.ofTypeName, Kind.ofTypeName, String.toList_ofList, String.toList_ofList,
    Layout.lower_of_recased h]

/-! ## Statements of words -/

namespace Directive

/-- A word that is the keyword of a directive, in any case. -/
def Names (directive : Directive) (word : List Char) : Prop :=
  Layout.Recased directive.keyword.toList word

theorem ofKeyword?_keyword (directive : Directive) :
    ofKeyword? directive.keyword = some directive := by
  cases directive <;> rfl

end Directive

namespace Statement

variable {directive : Directive}

/-- The directive has been read already when the words of a line are. -/
theorem ofTokens_first (first first' : String) (later : List String) :
    ofTokens directive (first' :: later) = ofTokens directive (first :: later) := by
  cases directive <;> rcases later with _ | ⟨a, _ | ⟨b, _ | ⟨c, _ | ⟨d, later⟩⟩⟩⟩ <;> rfl

/-- Words behind those that a directive needs are not looked at. -/
theorem ofTokens_append {tokens : List String} (h : directive.arity ≤ tokens.length)
    (added : List String) : ofTokens directive (tokens ++ added) = ofTokens directive tokens := by
  cases directive <;> rcases tokens with _ | ⟨a, _ | ⟨b, _ | ⟨c, _ | ⟨d, _ | ⟨e, tokens⟩⟩⟩⟩⟩ <;>
    first | rfl | exact absurd h (by simp [Directive.arity])

end Statement

namespace Line

/-- The statement that words make. -/
def statementOf? : (words : List (List Char)) → Option Statement
  | []             => none
  | first :: later =>
      if first.head? = some '#' then none
      else (Directive.ofKeyword? (String.ofList (Layout.upper first))).bind (fun directive =>
        (Statement.ofTokens directive ((first :: later).map String.ofList)).toOption)

theorem statement?_eq (line : List Char) : statement? line = statementOf? (Layout.words line) := by
  rw [statement?, directive?, keyword, tokensOf]
  cases Layout.words line with
  | nil => rfl
  | cons first later =>
      by_cases hsign : first.head? = some '#'
      · simp only [statementOf?, hsign, if_true]
        rfl
      · simp only [statementOf?, hsign, if_false, List.map_cons, List.head?_cons,
          Option.getD_some, String.toList_ofList]

theorem statementOf?_of_upper {directive : Directive} {first : List Char}
    {later : List (List Char)} (h : Layout.upper first = Layout.upper directive.keyword.toList) :
    statementOf? (first :: later) =
      (Statement.ofTokens directive ((first :: later).map String.ofList)).toOption := by
  have hkeyword : String.ofList (Layout.upper first) = directive.keyword := by
    rw [h]
    cases directive <;> decide
  have hhead : first.head? ≠ some '#' := by
    intro hsign
    have hupper := congrArg List.head? h
    rw [Layout.upper, List.head?_map, hsign] at hupper
    cases directive <;> cases hupper
  rw [statementOf?, if_neg hhead, hkeyword, Directive.ofKeyword?_keyword, Option.bind_some]

/-- One change to the words of a line of which a directive is the first: that word in another
case, the kind of an attribute in another case, or more words than the directive needs. -/
inductive Reworded : (words reworded : List (List Char)) → Prop
  | directive {directive : Directive} {first first' : List Char} {later : List (List Char)} :
      directive.Names first → Layout.Recased first first' →
      Reworded (first :: later) (first' :: later)
  | kind {first name code kind kind' : List Char} {later : List (List Char)} :
      Directive.define.Names first → Layout.Recased kind kind' →
      Reworded (first :: name :: code :: kind :: later) (first :: name :: code :: kind' :: later)
  | vendorKind {first vendor name code kind kind' : List Char} {later : List (List Char)} :
      Directive.defineVendor.Names first → Layout.Recased kind kind' →
      Reworded (first :: vendor :: name :: code :: kind :: later)
        (first :: vendor :: name :: code :: kind' :: later)
  | more {directive : Directive} {first : List Char} {later : List (List Char)}
      (added : List (List Char)) : directive.Names first →
      directive.arity ≤ (first :: later).length →
      Reworded (first :: later) (first :: (later ++ added))

theorem statementOf?_of_reworded {words reworded : List (List Char)} (h : Reworded words reworded) :
    statementOf? reworded = statementOf? words := by
  cases h with
  | directive hnames hcase =>
      have hupper := Layout.upper_of_recased hnames
      have hupper' := (Layout.upper_of_recased hcase).trans hupper
      rw [statementOf?_of_upper hupper, statementOf?_of_upper hupper', List.map_cons, List.map_cons,
        Statement.ofTokens_first]
  | kind hnames hcase =>
      have hupper := Layout.upper_of_recased hnames
      rw [statementOf?_of_upper hupper, statementOf?_of_upper hupper]
      simp only [List.map_cons, Statement.ofTokens, Kind.ofTypeName_of_recased hcase]
  | vendorKind hnames hcase =>
      have hupper := Layout.upper_of_recased hnames
      rw [statementOf?_of_upper hupper, statementOf?_of_upper hupper]
      simp only [List.map_cons, Statement.ofTokens, Kind.ofTypeName_of_recased hcase]
  | @more directive first later added hnames harity =>
      have hupper := Layout.upper_of_recased hnames
      have hlength : directive.arity ≤ ((first :: later).map String.ofList).length := by
        rwa [List.length_map]
      rw [statementOf?_of_upper hupper, statementOf?_of_upper hupper, ← List.cons_append,
        List.map_append, Statement.ofTokens_append hlength]

/-! ## Lines in another style -/

/-- The line in another style: words that say the same, in any white space. -/
def Restyled (line restyled : List Char) : Prop :=
  ∃ words reworded, Layout.Writes words line ∧ Layout.Writes reworded restyled ∧
    Relation.ReflTransGen Reworded words reworded

theorem Restyled.of_words {line restyled : List Char}
    (h : Relation.ReflTransGen Reworded (Layout.words line) (Layout.words restyled)) :
    Restyled line restyled :=
  ⟨_, _, Layout.writes_words line, Layout.writes_words restyled, h⟩

theorem Restyled.refl (line : List Char) : Restyled line line := .of_words .refl

/-- A line makes the same statement in any style. -/
theorem statement?_of_restyled {line restyled : List Char} (h : Restyled line restyled) :
    statement? restyled = statement? line := by
  obtain ⟨words, reworded, hline, hrestyled, hwords⟩ := h
  rw [statement?_eq, statement?_eq, Layout.words_of_writes hline,
    Layout.words_of_writes hrestyled]
  clear hline hrestyled
  induction hwords with
  | refl => rfl
  | tail _ hchange ih => rw [statementOf?_of_reworded hchange, ih]

end Line

/-! ## Texts in another style -/

namespace Layout

/-- A line feed ends a line, with or without a carriage return in front of it. -/
def endings : List (List Char) := [['\n'], ['\r', '\n']]

/-- The first line of a text writes the same words whatever ends it. -/
theorem lines_append_ending {line ending : List Char} (h : '\n' ∉ line) (hending : ending ∈ endings)
    (rest : List Char) :
    ∃ read, lines (line ++ (ending ++ rest)) = read :: lines rest ∧ words read = words line := by
  rcases List.mem_pair.mp hending with rfl | rfl
  · exact ⟨line, lines_append_feed h rest, rfl⟩
  · have hreturn : '\n' ∉ line ++ ['\r'] := by simp [h]
    have hlines := lines_append_feed hreturn rest
    rw [List.append_assoc] at hlines
    exact ⟨line ++ ['\r'], hlines, words_concat_of_blank (by decide) line⟩

/-- The text in another style: each of its lines in another style, with either ending. -/
inductive Restyled : (text restyled : List Char) → Prop
  | last {line line' : List Char} : '\n' ∉ line → '\n' ∉ line' → Line.Restyled line line' →
      Restyled line line'
  | line {line line' ending ending' rest rest' : List Char} : '\n' ∉ line → '\n' ∉ line' →
      Line.Restyled line line' → ending ∈ endings → ending' ∈ endings → Restyled rest rest' →
      Restyled (line ++ (ending ++ rest)) (line' ++ (ending' ++ rest'))

theorem Restyled.refl (text : List Char) : Restyled text text := by
  by_cases hfeed : '\n' ∈ text
  · obtain ⟨line, rest, htext, hline⟩ := List.eq_append_cons_of_mem hfeed
    have hshorter : rest.length < text.length := by
      rw [htext, List.length_append, List.length_cons]
      omega
    have hending : ['\n'] ∈ endings := List.mem_cons_self
    rw [htext]
    exact .line hline hline (.refl line) hending hending (refl rest)
  · exact .last hfeed hfeed (.refl text)
termination_by text.length

end Layout

namespace Line

theorem statements_lines_of_feed_not_mem {line : List Char} (h : '\n' ∉ line) :
    statements (Layout.lines line) = (statement? line).toList := by
  cases line with
  | nil => rfl
  | cons c rest =>
      rw [Layout.lines_of_feed_not_mem h (List.cons_ne_nil _ _), statements_cons]
      exact List.append_nil _

theorem statements_lines_append_ending {line ending : List Char} (h : '\n' ∉ line)
    (hending : ending ∈ Layout.endings) (rest : List Char) :
    statements (Layout.lines (line ++ (ending ++ rest))) =
      (statement? line).toList ++ statements (Layout.lines rest) := by
  obtain ⟨read, hlines, hwords⟩ := Layout.lines_append_ending h hending rest
  rw [hlines, statements_cons, statement?_eq read, hwords, ← statement?_eq]

/-- A text makes the same statements in any style. -/
theorem statements_lines_of_restyled {text restyled : List Char}
    (h : Layout.Restyled text restyled) :
    statements (Layout.lines restyled) = statements (Layout.lines text) := by
  induction h with
  | last hline hline' hstyle =>
      rw [statements_lines_of_feed_not_mem hline', statements_lines_of_feed_not_mem hline,
        statement?_of_restyled hstyle]
  | line hline hline' hstyle hending hending' _ ih =>
      rw [statements_lines_append_ending hline' hending', ih,
        statements_lines_append_ending hline hending, statement?_of_restyled hstyle]

end Line

/-! ## Resources in another style -/

namespace Dictionary

/-- The style of dictionary text does not matter. Write any number of resources in another style:
end lines with a line feed or with a carriage return and a line feed, put other white space
before, between and behind the words of a line, write a directive or the kind of an attribute in
another case, add words to a line that has all that its directive needs. Loading comes to the same
and leaves the same dictionary, whatever it was before and whichever resource is loaded. -/
theorem style_does_not_matter (resources restyled : Resources) (dictionary : Dictionary)
    (top : String)
    (hstyle : ∀ name, Option.Rel (fun text text' => Layout.Restyled text.toList text'.toList)
      (resources.find? name) (restyled.find? name)) :
    Update.outcome (Update.load restyled.source top) dictionary =
      Update.outcome (Update.load resources.source top) dictionary :=
  Resources.outcome_load_congr Line.statements_lines_of_restyled hstyle dictionary top

namespace Sample

def first : List Char := "ATTRIBUTE Port 5 integer".toList

/-- The same definition with spaces that are not of ASCII, and with a word too many. -/
def styled : List Char := "\tattribute\u00a0Port 5\u3000\u2003INTEGER each".toList

def rest : List Char :=
  "VALUE Port Slow 1\n$INCLUDE vendor/acme\n$INCLUDE none\nVALUE Port Fast 1\n".toList

def restyled : Resources :=
  resources.insert "main" (String.ofList (styled ++ (['\r', '\n'] ++ rest)))

theorem styled_restyles_first : Line.Restyled first styled := by
  have hdefine : Directive.define.Names "ATTRIBUTE".toList := by
    unfold Directive.Names Layout.Recased
    decide
  have hdefine' : Directive.define.Names "attribute".toList := by
    unfold Directive.Names Layout.Recased
    decide
  have hkind : Layout.Recased "integer".toList "INTEGER".toList := by
    unfold Layout.Recased
    decide
  have hwords : Layout.words first =
      ["ATTRIBUTE".toList, "Port".toList, "5".toList, "integer".toList] := by
    decide +kernel
  have hstyled : Layout.words styled =
      ["attribute".toList, "Port".toList, "5".toList, "INTEGER".toList, "each".toList] := by
    decide +kernel
  have hdirective : Line.Reworded
      ["ATTRIBUTE".toList, "Port".toList, "5".toList, "integer".toList]
      ["attribute".toList, "Port".toList, "5".toList, "integer".toList] :=
    .directive hdefine hdefine'
  have hcase : Line.Reworded
      ["attribute".toList, "Port".toList, "5".toList, "integer".toList]
      ["attribute".toList, "Port".toList, "5".toList, "INTEGER".toList] :=
    .kind hdefine' hkind
  have hmore : Line.Reworded
      ["attribute".toList, "Port".toList, "5".toList, "INTEGER".toList]
      ["attribute".toList, "Port".toList, "5".toList, "INTEGER".toList, "each".toList] :=
    .more ["each".toList] hdefine' (by decide)
  refine .of_words ?_
  rw [hwords, hstyled]
  exact ((Relation.ReflTransGen.single hdirective).tail hcase).tail hmore

theorem restyled_restyles (name : String) :
    Option.Rel (fun text text' => Layout.Restyled text.toList text'.toList)
      (resources.find? name) (restyled.find? name) := by
  have hfound : resources.find? "main" = some (String.ofList (first ++ (['\n'] ++ rest))) := by
    decide +kernel
  have hfirst : '\n' ∉ first := by decide
  have hstyled : '\n' ∉ styled := by decide
  have hstyle : Layout.Restyled (first ++ (['\n'] ++ rest)) (styled ++ (['\r', '\n'] ++ rest)) :=
    .line hfirst hstyled styled_restyles_first (by decide) (by decide) (.refl rest)
  rw [← String.toList_ofList (l := first ++ _), ← String.toList_ofList (l := styled ++ _)] at hstyle
  exact Table.rel_find?_insert (fun text => .refl text.toList) hfound hstyle name

end Sample

theorem sample_style_does_not_matter :
    Update.outcome (Update.load Sample.restyled.source "main") empty =
      Update.outcome (Update.load Sample.resources.source "main") empty :=
  style_does_not_matter Sample.resources Sample.restyled empty "main" Sample.restyled_restyles

end Dictionary
end Radius
