-- SUMMARY: Attribute definitions with their labels, and dictionaries that find them by code and by name.
import Radius.Attribute.Type
import Radius.Dictionary.Error
import Radius.Table
import Radius.Value.Text

/-!
# Dictionaries

A dictionary holds attribute definitions, found by vendor and code or by name, and
the names of vendors. Definitions stand in the order they were added, and two index
tables lead to them; each add checks that neither index has the key, so that the two
always agree.
-/

namespace Radius

/-! ## Labels -/

/-- Names for the values of an attribute, by rising value, one for each value. -/
abbrev Labels := List (UInt32 × String)

namespace Labels

/-- Name a value, in the place of the name it had. -/
def insert (value : UInt32) (label : String) : Labels → Labels
  | []             => [(value, label)]
  | entry :: later =>
      if value < entry.1 then (value, label) :: entry :: later
      else if value = entry.1 then (value, label) :: later
      else entry :: insert value label later

/-- The label of a value. -/
def label? (labels : Labels) (value : UInt32) : Option String :=
  (labels.find? (fun entry => entry.1 = value)).map (·.2)

/-- The smallest value with a label. -/
def value? (labels : Labels) (label : String) : Option UInt32 :=
  (labels.find? (fun entry => entry.2 = label)).map (·.1)

end Labels

/-! ## Definitions -/

/-- The name and kind of an attribute. -/
structure AttributeDefinition where
  code : UInt8
  /-- The vendor that gave the code; none for the standard attributes. -/
  vendor : Option UInt32
  name : String
  kind : Kind
  labels : Labels
deriving DecidableEq, Repr

namespace AttributeDefinition

def new (code : UInt8) (name : String) (kind : Kind) : AttributeDefinition :=
  ⟨code, none, name, kind, []⟩

def ofVendor (vendor : UInt32) (code : UInt8) (name : String) (kind : Kind) : AttributeDefinition :=
  ⟨code, some vendor, name, kind, []⟩

/-- The key that finds a definition by code. -/
def key (definition : AttributeDefinition) : Option UInt32 × UInt8 :=
  (definition.vendor, definition.code)

def setLabel (definition : AttributeDefinition) (value : UInt32) (label : String) :
    AttributeDefinition :=
  { definition with labels := definition.labels.insert value label }

/-- The text of value octets, a label where there is one; octets that are no value of the kind
appear as hexadecimal. -/
def formatValue (definition : AttributeDefinition) (bytes : Bytes) : String :=
  match definition.kind.decode bytes with
  | .ok (.integer value) => (definition.labels.label? value).getD (toString value.toNat)
  | .ok value            => value.toText
  | .error _             => (Value.octets bytes).toText

/-- The octets that a text writes; for a number, a label counts before digits do. -/
def parseValue (definition : AttributeDefinition) (text : String) : Except PacketError Bytes :=
  match definition.kind, definition.labels.value? text with
  | .integer, some value => .ok (Value.integerBytes value)
  | kind,     _          => kind.parse text

end AttributeDefinition

/-! ## Dictionaries -/

structure Dictionary where
  definitions : List AttributeDefinition
  /-- Where each vendor and code is defined. -/
  byCode : Table (Option UInt32 × UInt8) Nat
  /-- Where each name is defined. -/
  byName : Table String Nat
  vendors : Table UInt32 String
deriving DecidableEq

namespace Dictionary

def empty : Dictionary := ⟨[], Table.empty, Table.empty, Table.empty⟩

instance : Inhabited Dictionary := ⟨empty⟩

def size (dictionary : Dictionary) : Nat := dictionary.definitions.length

def byCode? (dictionary : Dictionary) (vendor : Option UInt32) (code : UInt8) :
    Option AttributeDefinition :=
  (dictionary.byCode.find? (vendor, code)).bind (dictionary.definitions[·]?)

def byName? (dictionary : Dictionary) (name : String) : Option AttributeDefinition :=
  (dictionary.byName.find? name).bind (dictionary.definitions[·]?)

/-- The definitions of a vendor, or the standard ones, by rising code. -/
def definitionsOf (dictionary : Dictionary) (vendor : Option UInt32) : List AttributeDefinition :=
  (List.range 256).filterMap (fun code => dictionary.byCode? vendor (UInt8.ofNat code))

def vendorName? (dictionary : Dictionary) (vendor : UInt32) : Option String :=
  dictionary.vendors.find? vendor

/-- A vendor of this name. Several vendors may share a name, and then which of them is met first is
left to the walk. -/
def vendorOfName? (dictionary : Dictionary) (name : String)
    (walk : Table.Walk (UInt32 × String) := .ahead _) : Option UInt32 :=
  dictionary.vendors.keyOf? walk name

/-- The standard attribute 26 holds sub-attributes, whatever its definition says. -/
def reserveContainer (definition : AttributeDefinition) : AttributeDefinition :=
  if definition.vendor = none ∧ definition.code = AttributeType.vendorSpecific then
    { definition with kind := .vendorSpecific }
  else definition

/-- Add a definition under a vendor and code and a name that are both free. -/
def define (dictionary : Dictionary) (definition : AttributeDefinition) :
    Except DictionaryError Dictionary :=
  if dictionary.byCode.contains definition.key then
    .error (.duplicateCode definition.vendor definition.code)
  else if dictionary.byName.contains definition.name then .error (.duplicateName definition.name)
  else
    let index := dictionary.definitions.length
    .ok { dictionary with
      definitions := dictionary.definitions ++ [reserveContainer definition]
      byCode := dictionary.byCode.insert definition.key index
      byName := dictionary.byName.insert definition.name index }

/-- Name a value of a named attribute, in the place of the name it had. -/
def label (dictionary : Dictionary) (name : String) (value : UInt32) (label : String) :
    Except DictionaryError Dictionary :=
  match dictionary.byName.find? name with
  | none => .error (.unknownAttribute name)
  | some index =>
      .ok { dictionary with
        definitions := dictionary.definitions.modify index (·.setLabel value label) }

/-- Name a vendor; a vendor that has a name keeps it. -/
def nameVendor (dictionary : Dictionary) (vendor : UInt32) (name : String) :
    Except DictionaryError Dictionary :=
  match dictionary.vendors.find? vendor with
  | some known =>
      if known = name then .ok dictionary else .error (.duplicateVendor vendor)
  | none => .ok { dictionary with vendors := dictionary.vendors.insert vendor name }

end Dictionary
end Radius
