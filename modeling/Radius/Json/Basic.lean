-- SUMMARY: JSON values, and the named fields of a record.
import Radius.Table

/-!
# JSON

A value is a tree. Numbers stay as they are written, because each use puts its own
bound on them. An escape in a text may name half of a character only; such a text is
well formed and has no value.

A record is an object with known names or an array with the values of those names in
order. Either form may leave names out.
-/

namespace Radius

inductive Json where
  | null
  | bool (value : Bool)
  /-- A number as it is written. -/
  | number (literal : String)
  /-- A text; none if an escape in it names half of a character. -/
  | string (value : Option String)
  | array (items : List Json)
  | object (members : List (Option String × Json))
deriving Inhabited, Repr

namespace Json

def text? : Json → Option String
  | .string value => value
  | _             => none

def bool? : Json → Option Bool
  | .bool value => some value
  | _           => none

def array? : Json → Option (List Json)
  | .array items => some items
  | _            => none

/-- A text, or null. -/
def nullableText? : Json → Option (Option String)
  | .null                => some none
  | .string (some value) => some (some value)
  | _                    => none

/-! ## Records -/

/-- Values by name. -/
abbrev Fields := Table String Json

/-- Enter the members of an object that have a known name; a name that comes twice or that is no
text is refused. -/
def collect (names : List String) : List (Option String × Json) → Fields → Option Fields
  | [], fields => some fields
  | (none, _) :: _, _ => none
  | (some name, value) :: later, fields =>
      if ¬ names.contains name then collect names later fields
      else if fields.contains name then none
      else collect names later (fields.insert name value)

/-- The fields of a record with these names. -/
def fields? (names : List String) : Json → Option Fields
  | .object members => collect names members Table.empty
  | .array items =>
      if items.length ≤ names.length then some (Table.ofList (names.zip items)) else none
  | _ => none

namespace Fields

/-- A field that must be there. -/
def required {α : Type} (fields : Fields) (name : String) (read : Json → Option α) : Option α :=
  (fields.find? name).bind read

/-- A field that may be left out for a default. -/
def withDefault {α : Type} (fields : Fields) (name : String) (default : α)
    (read : Json → Option α) : Option α :=
  match fields.find? name with
  | none       => some default
  | some value => read value

end Fields
end Json
end Radius
