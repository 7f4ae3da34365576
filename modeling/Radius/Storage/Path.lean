-- SUMMARY: Paths as text: the parent of a path and a path inside another.
import Radius.Text.Segments

/-!
# Paths

A path is names with slashes between, absolute when it begins with one. Empty names
and single dots mean nothing, except the dot in front of a relative path.
-/

namespace Radius.Path

def isAbsolute (path : String) : Bool := path.toList.head? = some '/'

/-- Segments, the last one first, without those at the end that mean nothing. The very first
segment of a path always stays. -/
def dropMeaningless : List (List Char) → List (List Char)
  | segment :: next :: rest =>
      if segment = [] ∨ segment = ['.'] then dropMeaningless (next :: rest)
      else segment :: next :: rest
  | segments => segments

/-- The path less its last name; none for a path without names. -/
def parent? (path : String) : Option String :=
  match dropMeaningless (segments path.toList).reverse with
  | []   => none
  | [[]] => none
  | [_]  => some ""
  | _ :: rest =>
      match dropMeaningless rest with
      | [[]] => some "/"
      | path => some (String.ofList (joinSegments path.reverse))

/-- The path `next` as seen from a directory; an absolute path stays as it is. -/
def join (directory next : String) : String :=
  if isAbsolute next ∨ directory = "" then next
  else if directory.toList.getLast? = some '/' then directory ++ next
  else directory ++ "/" ++ next

end Radius.Path
