-- SUMMARY: The lines that a terminal shows of an output, without its colours.
import Radius.Text.Layout

/-!
# Text on a terminal

A terminal takes some runs of characters as colours and shows nothing of them: an
escape character, a bracket, numbers with semicolons between them, and an `m`. A line
ends with a line feed, and a carriage return right in front of it belongs to the end.
-/

namespace Radius.Terminal

/-! ## Colours -/

/-- How many characters of a text are the colour that it begins with; 0 if it begins with none. -/
def colourLength : List Char → Nat
  | '\x1b' :: '[' :: rest =>
      let numbers := rest.takeWhile (fun c => c.isDigit || c = ';')
      if (rest.drop numbers.length).head? = some 'm' then numbers.length + 3 else 0
  | _ => 0

/-- A text without its colours, and without its first characters. -/
def uncolouredFrom : (skipped : Nat) → List Char → List Char
  | _,           []        => []
  | skipped + 1, _ :: rest => uncolouredFrom skipped rest
  | 0,           c :: rest =>
      match colourLength (c :: rest) with
      | 0          => c :: uncolouredFrom 0 rest
      | length + 1 => uncolouredFrom length rest

/-- A text without its colours. -/
def uncoloured (text : List Char) : List Char := uncolouredFrom 0 text

/-! ## Lines -/

/-- A line without the carriage return that may stand at its end. -/
def withoutReturn (line : List Char) : List Char :=
  if line.getLast? = some '\r' then line.dropLast else line

/-- The lines that a terminal shows of an output. -/
def lines (output : List Char) : List (List Char) :=
  (Layout.lines (uncoloured output)).map withoutReturn

end Radius.Terminal
