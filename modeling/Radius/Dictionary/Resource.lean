-- SUMMARY: Names of dictionary resources, and the sources that resolve and read them.
import Radius.Dictionary.Error
import Radius.Table
import Radius.Text.Segments
import Radius.Text.Utf8

/-!
# Dictionary resources

A dictionary is read from named resources that may include one another. A source says
which resource an include means and what a resource holds. Embedded resources are a
table of texts; their names are segments with slashes between, and an include is
relative to the directory of the resource that holds it. A joined name has no empty
segments and no dots, and going up stops at the root.
-/

namespace Radius

/-- Where dictionary resources come from. -/
structure Source where
  /-- The resource that an include in a resource means, if it exists. -/
  resolve : (current next : String) → Option String
  read : (resource : String) → Except StorageError Bytes

/-! ## Names -/

namespace ResourceName

/-- Follow one segment from a path, whose last segment stands first. -/
def follow (path : List (List Char)) (segment : List Char) : List (List Char) :=
  if segment = [] ∨ segment = ['.'] then path
  else if segment = ['.', '.'] then path.tail
  else segment :: path

/-- The segments of the directory that holds a resource, the last one first. -/
def directory (current : List Char) : List (List Char) :=
  (segments current).dropLast.reverse.filter (· ≠ [])

/-- The name that `next` means in the resource `current`. -/
def join (current next : String) : String :=
  let start := if next.toList.head? = some '/' then [] else directory current.toList
  String.ofList (joinSegments ((segments next.toList).foldl follow start).reverse)

end ResourceName

/-! ## Embedded resources -/

/-- Texts by name. -/
abbrev Resources := Table String String

/-- The source that reads from a table of texts. -/
def Resources.source (resources : Resources) : Source where
  resolve current next :=
    let name := ResourceName.join current next
    if resources.contains name then some name else none
  read name :=
    match resources.find? name with
    | some text => .ok (Utf8.encode text)
    | none      => .error (.noResource name)

end Radius
