-- SUMMARY: The directives of dictionary text and the statements that their lines make.
import Radius.Dictionary.Basic

/-!
# Dictionary statements

A line that is neither blank nor a comment starts with a directive and has a fixed
number of words after it:

```text
ATTRIBUTE   User-Name        1     string
VALUE       Service-Type     Login-User   1
VENDOR      311              Microsoft
VENDORATTR  311  MS-CHAP-Challenge  11  octets
$INCLUDE    vendors.dict
```

`Statement.ofTokens` reads the words, and `Statement.apply` carries a statement out on
a dictionary. Words past the last one needed mean nothing.
-/

namespace Radius

/-- What the first word of a line asks for. -/
inductive Directive where
  | define
  | label
  | defineVendor
  | nameVendor
  | inclusion
deriving DecidableEq, Repr

namespace Directive

/-- The directive that a word in upper case names. -/
def ofKeyword? : String → Option Directive
  | "ATTRIBUTE"  => some .define
  | "VALUE"      => some .label
  | "VENDORATTR" => some .defineVendor
  | "VENDOR"     => some .nameVendor
  | "$INCLUDE"   => some .inclusion
  | _            => none

def keyword : Directive → String
  | .define       => "ATTRIBUTE"
  | .label        => "VALUE"
  | .defineVendor => "VENDORATTR"
  | .nameVendor   => "VENDOR"
  | .inclusion    => "$INCLUDE"

/-- How many words a line of this directive has, the directive itself included. -/
def arity : Directive → Nat
  | .define       => 4
  | .label        => 4
  | .defineVendor => 5
  | .nameVendor   => 3
  | .inclusion    => 2

end Directive

/-- What a line says. -/
inductive Statement where
  | define (definition : AttributeDefinition)
  | label (name : String) (value : UInt32) (text : String)
  | nameVendor (vendor : UInt32) (name : String)
  | inclusion (target : String)
deriving DecidableEq, Repr

namespace Statement

def number8 (token : String) : Except DictionaryError UInt8 :=
  match Decimal.parseUInt8 token with
  | .ok value    => .ok value
  | .error fault => .error (.invalidNumber token fault)

def number32 (token : String) : Except DictionaryError UInt32 :=
  match Decimal.parseUInt32 token with
  | .ok value    => .ok value
  | .error fault => .error (.invalidNumber token fault)

/-- The statement of a line with this directive. -/
def ofTokens (directive : Directive) (tokens : List String) : Except DictionaryError Statement :=
  match directive, tokens with
  | .define, _ :: name :: code :: type :: _ => do
      let code ← number8 code
      return .define (.new code name (Kind.ofTypeName type))
  | .label, _ :: name :: text :: value :: _ => do
      return .label name (← number32 value) text
  | .defineVendor, _ :: vendor :: name :: code :: type :: _ => do
      let vendor ← number32 vendor
      let code ← number8 code
      return .define (.ofVendor vendor code name (Kind.ofTypeName type))
  | .nameVendor, _ :: vendor :: name :: _ => do
      return .nameVendor (← number32 vendor) name
  | .inclusion, _ :: target :: _ => .ok (.inclusion target)
  | _, _ => .error (.missingToken directive.keyword directive.arity tokens.length)

/-- Carry a statement out; an inclusion by itself changes nothing. -/
def apply (dictionary : Dictionary) : Statement → Except DictionaryError Dictionary
  | .define definition      => dictionary.define definition
  | .label name value text  => dictionary.label name value text
  | .nameVendor vendor name => dictionary.nameVendor vendor name
  | .inclusion _            => .ok dictionary

end Statement
end Radius
