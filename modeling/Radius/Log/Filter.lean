-- SUMMARY: Which log entries are shown: the rules of a filter, and which of them decides.
import Radius.Log.Rule

/-!
# Log filters

A filter is rules with commas between. Of the rules that govern an entry the most
specific one decides, and of two equally specific ones the later. A rule that cannot
be read is left out, and a filter without rules shows errors only.
-/

namespace Radius

abbrev LogFilter := List LogRule

namespace LogFilter

/-- The filter that shows the entries of a level and those with less detail. -/
def ofLevel (level : LogLevel) : LogFilter := [⟨"", .everything, level.detail⟩]

/-! ## Reading -/

/-- The pieces of a text between commas. -/
def pieces : List Char → List (List Char)
  | []        => [[]]
  | c :: rest =>
      if c = ',' then [] :: pieces rest
      else
        match pieces rest with
        | []             => [[c]]
        | piece :: later => (c :: piece) :: later

/-- The rules among texts; none if one of them cannot be cut into words. -/
def rules? : List (List Char) → Option LogFilter
  | []            => some []
  | piece :: rest =>
      match LogRule.ofText (String.ofList piece) with
      | .ok rule               => (rules? rest).map (rule :: ·)
      | .error .unreadable     => rules? rest
      | .error .splitCharacter => none

/-- The filter that a text writes; none if a rule cannot be cut into words. -/
def ofText? (text : String) : Option LogFilter :=
  match rules? (pieces text.toList) with
  | some []    => some (ofLevel .error)
  | some rules => some rules
  | none       => none

/-! ## Deciding -/

/-- The more specific of two rules, the second one if they are equally so. -/
def moreSpecific (first : Option LogRule) (second : LogRule) : Option LogRule :=
  match first with
  | none      => some second
  | some rule => if rule.le second then some second else some rule

/-- The rule that decides on an entry. -/
def ruleFor? (filter : LogFilter) (entry : LogEntry) : Option LogRule :=
  (filter.filter (·.governs entry)).foldl moreSpecific none

/-- Whether an entry is shown. -/
def shows (filter : LogFilter) (entry : LogEntry) : Bool :=
  (filter.ruleFor? entry).any (fun rule => entry.level.detail ≤ rule.detail)

end LogFilter
end Radius
