-- SUMMARY: Rules on how much of the log is shown, and how a text writes one.
import Radius.Log.Basic
import Radius.Pattern.Reader
import Radius.Text.Alphanumeric
import Radius.Text.Cut
import Radius.Text.Decimal
import Radius.Text.Layout
import Radius.Text.Scientific

/-!
# Log rules

A rule says how detailed the entries may be that it governs. It governs the entries
whose target begins with a text; it may ask for a field as well, or be about spans of
work. No entry stands inside a span here, so a rule about spans governs nothing.

A text writes a rule as a level, as a target, or as a target followed by brackets, by
an equals sign and a level, or by both. The brackets hold the name of a span, a field
between braces, or both. A field with a value, a number or a pattern, belongs to a span.
-/

namespace Radius

/-! ## Rules -/

/-- What a rule asks for besides the target. -/
inductive LogRule.Scope where
  | everything
  /-- The entry has a field. -/
  | field (name : String)
  /-- The entry stands inside a span of work. -/
  | span
deriving DecidableEq, Repr

structure LogRule where
  /-- What a governed target begins with. -/
  target : String
  scope : LogRule.Scope
  /-- The most detail shown: 0 for nothing, 5 for everything. -/
  detail : Nat
deriving DecidableEq, Repr

namespace LogRule

/-- Whether a rule speaks of an entry. -/
def governs (rule : LogRule) (entry : LogEntry) : Bool :=
  rule.target.toList.isPrefixOf entry.target.toList &&
    match rule.scope with
    | .everything => true
    | .field name => entry.hasField name
    | .span       => false

/-- Whether a scope is at most as specific as another: a field is more specific than none, and of
two fields the one that is later in the order of texts. -/
def Scope.le : Scope → Scope → Bool
  | .field name, .field later => name ≤ later
  | .field _,    _            => false
  | _,           _            => true

/-- Whether a rule is at most as specific as another; a longer target comes before any scope. -/
def le (rule other : LogRule) : Bool :=
  rule.target.length < other.target.length ||
    (rule.target.length = other.target.length && rule.scope.le other.scope)

/-! ## Reading -/

/-- Why a text is no rule. -/
inductive Fault where
  | unreadable
  /-- A word would begin or end inside a character. -/
  | splitCharacter
deriving DecidableEq, Repr

/-- The detail that a level means; a level is a word in either case, or its number. -/
def detail? (word : String) : Option Nat :=
  match Decimal.parse 5 word with
  | .ok n    => some n
  | .error _ =>
      match String.ofList (Layout.lower word.toList) with
      | "off"   => some 0
      | "error" => some 1
      | "warn"  => some 2
      | "info"  => some 3
      | "debug" => some 4
      | "trace" => some 5
      | _       => none

/-- The characters that a target or a level may begin with. -/
def mayBegin (c : Char) : Bool :=
  CharSet.isAlphanumeric c || c = '-' || c = ':' || c = '_'

/-- The first character of a kind: its place, the character, and what follows. -/
def seek? (stops : Char → Bool) : (place : Nat) → List Char → Option (Nat × Char × List Char)
  | _,     []        => none
  | place, c :: rest =>
      if stops c then some (place, c, rest) else seek? stops (place + c.utf8Size) rest

/-- The word between two places. -/
def word (text : List Char) (start stop : Nat) : Except Fault String :=
  match Cut.between? start stop text with
  | some chars => .ok (String.ofList chars)
  | none       => .error .splitCharacter

/-- The detail of the level that begins at a place; with no level everything is shown. -/
def levelAt (text : List Char) (place : Nat) : Except Fault Nat :=
  match Cut.drop? place text with
  | none       => .error .splitCharacter
  | some []    => .ok 5
  | some chars =>
      match detail? (String.ofList chars) with
      | some detail => .ok detail
      | none        => .error .unreadable

/-- The detail that stands behind brackets, which end at a place. -/
def detailBehind (text : List Char) (place : Nat) : (rest : List Char) → Except Fault Nat
  | []       => .ok 5
  | '=' :: _ => levelAt text (place + 1)
  | _        => .error .unreadable

/-- Whether the value of a field can be read: a number or a pattern. The value stands between the
first equals sign and the second one, if there is one. -/
def hasReadableValue (field : List Char) : Bool :=
  match field.dropWhile (· ≠ '=') with
  | []         => true
  | _ :: value =>
      let value := value.takeWhile (· ≠ '=')
      Scientific.isNumber value || Pattern.isPattern value

/-- The scope of a span's name and a field, and the detail that stands behind them; the field
begins at a place. -/
def fieldScope (text : List Char) (span : String) (place : Nat) (rest : List Char) :
    Except Fault (Scope × Nat) := do
  match seek? (· = '\x7d') place rest with
  | some (stop, _, ']' :: rest) =>
      let field ← word text place stop
      if field = "" ∨ ¬ hasReadableValue field.toList then .error .unreadable
      else
        let detail ← detailBehind text (stop + 2) rest
        return (if span = "" ∧ ¬ field.contains '=' then .field field else .span, detail)
  | some (stop, _, _) =>
      let _ ← word text place stop
      .error .unreadable
  | none => .error .unreadable

/-- The scope in brackets, and the detail that stands behind them; what the brackets hold begins
at a place. -/
def bracketScope (text : List Char) (place : Nat) (rest : List Char) :
    Except Fault (Scope × Nat) := do
  match seek? (fun c => c = ']' || c = '\x7b') place rest with
  | some (stop, ']', rest) =>
      let _ ← word text place stop
      return (.span, ← detailBehind text (stop + 1) rest)
  | some (stop, _, rest) =>
      let span ← word text place stop
      fieldScope text span (stop + 1) rest
  | none => .error .unreadable

/-- The rule that a text writes. The places of its words are counted from the first character
that is not white space, and the words are cut out of the whole text at these places: leading
white space belongs to the first word. -/
def ofText (text : String) : Except Fault LogRule := do
  let chars := text.toList
  match Layout.trim chars with
  | [] => .error .unreadable
  | '[' :: rest =>
      let (scope, detail) ← bracketScope chars 1 rest
      return ⟨"", scope, detail⟩
  | c :: rest =>
      if mayBegin c then
        match seek? (fun c => c = '=' || c = '[') c.utf8Size rest with
        | some (place, '=', _) =>
            let target ← word chars 0 place
            return ⟨target, .everything, ← levelAt chars (place + 1)⟩
        | some (place, _, rest) =>
            let target ← word chars 0 place
            let (scope, detail) ← bracketScope chars (place + 1) rest
            return ⟨target, scope, detail⟩
        | none =>
            match detail? text with
            | some detail => return ⟨"", .everything, detail⟩
            | none        => return ⟨text, .everything, 5⟩
      else .error .unreadable

end LogRule
end Radius
