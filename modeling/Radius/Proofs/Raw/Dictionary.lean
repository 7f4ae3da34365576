-- SUMMARY: Lookups in a dictionary and statements from words by bare indices: where the index tables lead to definitions and the words are counted, none of them is trapped.
import Mathlib.Data.List.Basic
import Radius.Proofs.Dictionary.Index
import Radius.Proofs.Raw.Basic

/-!
# Dictionaries by indices

The index tables of a dictionary give places, and a definition is taken from its place without
looking whether it is there. The words of a line are taken by their places too, once there are as
many of them as the directive needs.
-/

namespace Radius.Raw

/-! ## Lookups -/

section

variable {ε κ α : Type} [DecidableEq κ]

/-- The item at the place that a table gives for a key. -/
def lookup (table : Table κ Nat) (items : List α) (key : κ) : Raw ε (Option α) :=
  match table.find? key with
  | none       => return none
  | some index => do return some (← item items index)

theorem lookup_eq {table : Table κ Nat} {keyOf : α → κ} {items : List α}
    (h : table.Indexes keyOf items) (key : κ) :
    (lookup table items key : Raw ε (Option α)) =
      .done ((table.find? key).bind (items[·]?)) := by
  unfold lookup
  cases hindex : table.find? key with
  | none => rfl
  | some index =>
      obtain ⟨found, hfound, -⟩ := (h.find?_iff key index).mp hindex
      dsimp only
      rw [item_of_getElem? hfound, done_bind, Option.bind_some, hfound]
      rfl

end

section

variable {ε : Type} {dictionary : Dictionary}

def byCode (dictionary : Dictionary) (vendor : Option UInt32) (code : UInt8) :
    Raw ε (Option AttributeDefinition) :=
  lookup dictionary.byCode dictionary.definitions (vendor, code)

def byName (dictionary : Dictionary) (name : String) : Raw ε (Option AttributeDefinition) :=
  lookup dictionary.byName dictionary.definitions name

/-- Name a value of a named attribute, in the place of the name it had. -/
def label (dictionary : Dictionary) (name : String) (value : UInt32) (text : String) :
    Raw DictionaryError Dictionary :=
  match dictionary.byName.find? name with
  | none => .failed (.unknownAttribute name)
  | some index => do
      let definition ← item dictionary.definitions index
      return { dictionary with
        definitions := dictionary.definitions.set index (definition.setLabel value text) }

variable (h : dictionary.Indexed)
include h

theorem byCode_eq (vendor : Option UInt32) (code : UInt8) :
    (byCode dictionary vendor code : Raw ε (Option AttributeDefinition)) =
      .done (dictionary.byCode? vendor code) :=
  lookup_eq h.byCode (vendor, code)

theorem byName_eq (name : String) :
    (byName dictionary name : Raw ε (Option AttributeDefinition)) =
      .done (dictionary.byName? name) :=
  lookup_eq h.byName name

theorem label_eq (name : String) (value : UInt32) (text : String) :
    label dictionary name value text = ofExcept (dictionary.label name value text) := by
  unfold label Dictionary.label
  cases hindex : dictionary.byName.find? name with
  | none => rfl
  | some index =>
      obtain ⟨found, hfound, -⟩ := (h.byName.find?_iff name index).mp hindex
      dsimp only
      rw [item_of_getElem? hfound, done_bind, List.modify_eq_set_getElem?, hfound]
      rfl

end

/-! ## Statements -/

/-- The statement of a line with this directive, its words taken by their places. -/
def statement (directive : Directive) (tokens : List String) : Raw DictionaryError Statement :=
  if tokens.length < directive.arity then
    .failed (.missingToken directive.keyword directive.arity tokens.length)
  else
    match directive with
    | .define => do
        let code ← ofExcept (Statement.number8 (← item tokens 2))
        let kind := Kind.ofTypeName (← item tokens 3)
        return .define (.new code (← item tokens 1) kind)
    | .label => do
        let value ← ofExcept (Statement.number32 (← item tokens 3))
        return .label (← item tokens 1) value (← item tokens 2)
    | .defineVendor => do
        let vendor ← ofExcept (Statement.number32 (← item tokens 1))
        let code ← ofExcept (Statement.number8 (← item tokens 3))
        let kind := Kind.ofTypeName (← item tokens 4)
        return .define (.ofVendor vendor code (← item tokens 2) kind)
    | .nameVendor => do
        let vendor ← ofExcept (Statement.number32 (← item tokens 1))
        return .nameVendor vendor (← item tokens 2)
    | .inclusion => do
        return .inclusion (← item tokens 1)

theorem statement_eq (directive : Directive) (tokens : List String) :
    statement directive tokens = ofExcept (Statement.ofTokens directive tokens) := by
  -- A line that is too short is refused before any of its words is taken.
  cases directive with
  | define =>
      rcases tokens with _ | ⟨_, _ | ⟨_, _ | ⟨code, _ | ⟨_, _⟩⟩⟩⟩
      case cons.cons.cons.cons =>
        rw [statement, if_neg (by simp [Directive.arity])]
        exact ofExcept_map (Statement.number8 code) _
      all_goals rfl
  | label =>
      rcases tokens with _ | ⟨_, _ | ⟨_, _ | ⟨_, _ | ⟨value, _⟩⟩⟩⟩
      case cons.cons.cons.cons =>
        rw [statement, if_neg (by simp [Directive.arity])]
        exact ofExcept_map (Statement.number32 value) _
      all_goals rfl
  | defineVendor =>
      rcases tokens with _ | ⟨_, _ | ⟨vendor, _ | ⟨_, _ | ⟨code, _ | ⟨_, _⟩⟩⟩⟩⟩
      case cons.cons.cons.cons.cons =>
        rw [statement, if_neg (by simp [Directive.arity])]
        dsimp only
        rw [item_of_getElem? rfl, done_bind]
        refine ofExcept_bind fun _ _ => ?_
        exact ofExcept_map (Statement.number8 code) _
      all_goals rfl
  | nameVendor =>
      rcases tokens with _ | ⟨_, _ | ⟨vendor, _ | ⟨_, _⟩⟩⟩
      case cons.cons.cons =>
        rw [statement, if_neg (by simp [Directive.arity])]
        exact ofExcept_map (Statement.number32 vendor) _
      all_goals rfl
  | inclusion =>
      rcases tokens with _ | ⟨_, _ | ⟨_, _⟩⟩
      case cons.cons =>
        rw [statement, if_neg (by simp [Directive.arity])]
        rfl
      all_goals rfl

/-- Carry a statement out. -/
def apply (dictionary : Dictionary) : Statement → Raw DictionaryError Dictionary
  | .label name value text => label dictionary name value text
  | statement              => ofExcept (statement.apply dictionary)

theorem apply_eq {dictionary : Dictionary} (h : dictionary.Indexed) (statement : Statement) :
    apply dictionary statement = ofExcept (statement.apply dictionary) := by
  cases statement with
  | label name value text => exact label_eq h name value text
  | define | nameVendor | inclusion => rfl

end Radius.Raw
