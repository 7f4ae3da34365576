-- SUMMARY: Reading JSON text.
import Radius.Json.Basic
import Radius.Json.Text
import Radius.Text.Decimal

/-!
# Reading JSON

The grammar is strict: no comments, no comma without a value, no zero in front of
other digits, no control characters in strings, and nothing but white space after
the value. White space is space, tab, line feed and carriage return. Each reader
takes what it needs from the front of the text and returns what follows.
-/

namespace Radius.Json

/-! ## Tokens -/

def skipSpace (text : List Char) : List Char :=
  text.dropWhile (fun c => c = ' ' ∨ c = '\t' ∨ c = '\n' ∨ c = '\x0d')

/-- Take this text off the front. -/
def expect : List Char → List Char → Option (List Char)
  | [],      text      => some text
  | e :: es, c :: rest => if e = c then expect es rest else none
  | _ :: _,  []        => none

def isDigit (c : Char) : Bool := (Decimal.digit? c).isSome

/-- Read one digit or more. -/
def readDigits (text : List Char) : Option (List Char × List Char) :=
  let digits := text.takeWhile isDigit
  if digits = [] then none else some (digits, text.drop digits.length)

/-- Read the digits in front of a point; a zero stands alone. -/
def readWhole : List Char → Option (List Char × List Char)
  | '0' :: rest => some (['0'], rest)
  | text        => readDigits text

/-- Read a point and digits, if a point comes next. -/
def readFraction : List Char → Option (List Char × List Char)
  | '.' :: rest => (readDigits rest).map (fun found => ('.' :: found.1, found.2))
  | text        => some ([], text)

/-- Read an exponent, if one comes next. -/
def readExponent : List Char → Option (List Char × List Char)
  | e :: rest =>
      if e = 'e' ∨ e = 'E' then
        match rest with
        | '+' :: rest => (readDigits rest).map (fun found => (e :: '+' :: found.1, found.2))
        | '-' :: rest => (readDigits rest).map (fun found => (e :: '-' :: found.1, found.2))
        | rest        => (readDigits rest).map (fun found => (e :: found.1, found.2))
      else some ([], e :: rest)
  | [] => some ([], [])

def readUnsigned (text : List Char) : Option (List Char × List Char) := do
  let (whole, text) ← readWhole text
  let (fraction, text) ← readFraction text
  let (exponent, text) ← readExponent text
  return (whole ++ fraction ++ exponent, text)

/-- Read a number, as it is written. -/
def readNumber : List Char → Option (String × List Char)
  | '-' :: rest =>
      (readUnsigned rest).map (fun found => (String.ofList ('-' :: found.1), found.2))
  | text => (readUnsigned text).map (fun found => (String.ofList found.1, found.2))

/-- Read a string behind its opening quote. -/
def readText (text : List Char) : Option (Option String × List Char) :=
  (readPieces text).map (fun found => ((join? found.1).map String.ofList, found.2))

/-! ## Values -/

mutual

/-- Read a value that stands at the front, in at most `fuel` calls. -/
def readValue : (fuel : Nat) → List Char → Option (Json × List Char)
  | _, '"' :: rest => (readText rest).map (fun found => (.string found.1, found.2))
  | fuel + 1, '[' :: rest =>
      match skipSpace rest with
      | ']' :: rest => some (.array [], rest)
      | rest        => (readItems fuel rest).map (fun found => (.array found.1, found.2))
  | fuel + 1, '{' :: rest =>
      match skipSpace rest with
      | '}' :: rest => some (.object [], rest)
      | rest        => (readMembers fuel rest).map (fun found => (.object found.1, found.2))
  | _, 'n' :: rest => (expect ['u', 'l', 'l'] rest).map (fun rest => (.null, rest))
  | _, 't' :: rest => (expect ['r', 'u', 'e'] rest).map (fun rest => (.bool true, rest))
  | _, 'f' :: rest => (expect ['a', 'l', 's', 'e'] rest).map (fun rest => (.bool false, rest))
  | _, text        => (readNumber text).map (fun found => (.number found.1, found.2))

/-- Read the values of an array up to its closing bracket. -/
def readItems : (fuel : Nat) → List Char → Option (List Json × List Char)
  | 0, _ => none
  | fuel + 1, text =>
      match readValue fuel text with
      | none => none
      | some (item, rest) =>
          match skipSpace rest with
          | ']' :: rest => some ([item], rest)
          | ',' :: rest =>
              (readItems fuel (skipSpace rest)).map (fun found => (item :: found.1, found.2))
          | _ => none

/-- Read the members of an object up to its closing brace. -/
def readMembers : (fuel : Nat) → List Char → Option (List (Option String × Json) × List Char)
  | fuel + 1, '"' :: text =>
      match readText text with
      | none => none
      | some (name, rest) =>
          match skipSpace rest with
          | ':' :: rest =>
              match readValue fuel (skipSpace rest) with
              | none => none
              | some (value, rest) =>
                  match skipSpace rest with
                  | '}' :: rest => some ([(name, value)], rest)
                  | ',' :: rest =>
                      (readMembers fuel (skipSpace rest)).map (fun found =>
                        ((name, value) :: found.1, found.2))
                  | _ => none
          | _ => none
  | _, _ => none

end

/-- The value that the whole text writes. Of two calls in a row one takes a character at least, so
calls do not run out before the text does. -/
def parse? (text : String) : Option Json :=
  let chars := text.toList
  match readValue (2 * chars.length + 2) (skipSpace chars) with
  | some (value, rest) => if skipSpace rest = [] then some value else none
  | none               => none

end Radius.Json
