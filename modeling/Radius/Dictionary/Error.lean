-- SUMMARY: Why dictionary text or a dictionary operation is refused, and why a file cannot be read.
import Radius.Text.Decimal

/-!
# Dictionary errors

Each constructor is one cause. A resource that cannot be read carries the cause that
the storage behind it gives.
-/

namespace Radius

/-- Why a file or another resource cannot be read or written. -/
inductive StorageError where
  | notFound
  | notDirectory
  | isDirectory
  | nameTooLong
  /-- A path with a NUL character, which no file system can name. -/
  | nulInPath
  /-- Octets where text was wanted. -/
  | notText
  /-- A name that a set of embedded resources lacks. -/
  | noResource (name : String)
deriving DecidableEq, Repr

namespace StorageError

def message : StorageError → String
  | .notFound        => "No such file or directory (os error 2)"
  | .notDirectory    => "Not a directory (os error 20)"
  | .isDirectory     => "Is a directory (os error 21)"
  | .nameTooLong     => "File name too long (os error 36)"
  | .nulInPath       => "file name contained an unexpected NUL byte"
  | .notText         => "stream did not contain valid UTF-8"
  | .noResource name => s!"embedded resource not found: {name}"

/-- Whether the thing asked for does not exist. -/
def isNotFound : StorageError → Bool
  | .notFound     => true
  | .noResource _ => true
  | _             => false

end StorageError

inductive DictionaryError where
  | duplicateCode (vendor : Option UInt32) (code : UInt8)
  | duplicateName (name : String)
  | duplicateVendor (vendor : UInt32)
  | unknownAttribute (name : String)
  | missingToken (directive : String) (expected found : Nat)
  | invalidNumber (token : String) (error : Decimal.Error)
  | unreadable (resource : String) (error : StorageError)
deriving DecidableEq, Repr

namespace DictionaryError

/-- How a message names the space a code belongs to. -/
def vendorText : Option UInt32 → String
  | none        => "None"
  | some vendor => s!"Some({vendor.toNat})"

def message : DictionaryError → String
  | .duplicateCode vendor code =>
      s!"Duplicate attribute code {code.toNat} (vendor {vendorText vendor})"
  | .duplicateName name => s!"Duplicate attribute name: {name}"
  | .duplicateVendor vendor => s!"Duplicate vendor id {vendor.toNat}"
  | .unknownAttribute name => s!"Unknown attribute type: {name}"
  | .missingToken directive expected found => s!"{directive} expects {expected} tokens, got {found}"
  | .invalidNumber token error => s!"Invalid number '{token}': {error.message}"
  | .unreadable resource error =>
      s!"Cannot open dictionary resource '{resource}': {error.message}"

end DictionaryError
end Radius
