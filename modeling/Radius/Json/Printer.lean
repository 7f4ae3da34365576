-- SUMMARY: Writing JSON text, indented.
import Radius.Json.Basic
import Radius.Json.Text

/-!
# Writing JSON

Every item of an array and every member of an object has a line of its own, two
spaces further in than the brackets around it. Without items the brackets stand
together.
-/

namespace Radius.Json

/-- A line break and the indentation of a line `level` brackets deep. -/
def newLine (level : Nat) : List Char := '\n' :: List.replicate (2 * level) ' '

/-- Pieces set apart by commas, each on a line of its own, between brackets. -/
def block (level : Nat) (opening closing : Char) : List (List Char) → List Char
  | []            => [opening, closing]
  | piece :: more =>
      opening :: newLine (level + 1) ++ piece
        ++ more.flatMap (fun piece => ',' :: newLine (level + 1) ++ piece)
        ++ newLine level ++ [closing]

mutual

/-- A value whose first line starts `level` brackets deep. -/
def chars (level : Nat) : Json → List Char
  | .null           => ['n', 'u', 'l', 'l']
  | .bool true      => ['t', 'r', 'u', 'e']
  | .bool false     => ['f', 'a', 'l', 's', 'e']
  | .number literal => literal.toList
  | .string value   => quote (value.getD "")
  | .array items    => block level '[' ']' (itemChars (level + 1) items)
  | .object members => block level '{' '}' (memberChars (level + 1) members)

def itemChars (level : Nat) : List Json → List (List Char)
  | []           => []
  | item :: more => chars level item :: itemChars level more

def memberChars (level : Nat) : List (Option String × Json) → List (List Char)
  | []                   => []
  | (name, value) :: more =>
      (quote (name.getD "") ++ [':', ' '] ++ chars level value) :: memberChars level more

end

def toText (value : Json) : String := String.ofList (chars 0 value)

end Radius.Json
