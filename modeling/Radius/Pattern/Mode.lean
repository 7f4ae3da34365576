-- SUMMARY: The modes in which a pattern is read: characters, case and spaces.
import Radius.Text.Layout

/-!
# The modes of a pattern

A pattern is read in a mode. Letters turn parts of it on; behind a minus sign they turn
them off. In a spaced mode white space between items means nothing, nor does what
stands between a number sign and the end of its line.
-/

namespace Radius.Pattern

structure Mode where
  /-- Items stand for octets of ASCII, not for characters. -/
  ascii : Bool
  /-- Letters stand for themselves in either case. -/
  anyCase : Bool
  /-- White space and comments mean nothing. -/
  spaced : Bool
deriving DecidableEq, Repr

namespace Mode

/-- The mode in which a pattern begins. -/
def initial : Mode := ⟨false, false, false⟩

/-! ## Spaces -/

/-- What follows white space and comments. -/
def behindSpaces : (inComment : Bool) → List Char → List Char
  | _,     []        => []
  | true,  c :: rest => behindSpaces (c ≠ '\n') rest
  | false, c :: rest =>
      if Layout.isBlank c then behindSpaces false rest
      else if c = '#' then behindSpaces true rest
      else c :: rest

/-- A text from its first item on. -/
def skip (mode : Mode) (text : List Char) : List Char :=
  if mode.spaced then behindSpaces false text else text

/-- The character that tells what a hyphen in front of a text means. In a spaced mode white space
and one number sign are passed over, but no comment. -/
def ahead? (mode : Mode) (text : List Char) : Option Char :=
  if mode.spaced then
    match text.dropWhile Layout.isBlank with
    | '#' :: rest => (rest.dropWhile Layout.isBlank).head?
    | rest        => rest.head?
  else text.head?

/-! ## Letters -/

/-- The mode in which a letter is on, or off. Some letters change only what is matched. -/
def set? (mode : Mode) (on : Bool) : (letter : Char) → Option Mode
  | 'i' => some { mode with anyCase := on }
  | 'u' => some { mode with ascii := !on }
  | 'x' => some { mode with spaced := on }
  | 'm' | 's' | 'U' | 'R' => some mode
  | _   => none

/-- The mode that letters make, the character behind them, and what follows it. No letter occurs
twice, and a letter follows the minus sign. A parenthesis does not close without letters. -/
def letters? (mode : Mode) (on : Bool) (seen : List Char) :
    List Char → Option (Mode × Char × List Char)
  | []        => none
  | c :: rest =>
      if c = ':' ∨ c = ')' then
        if seen.head? = some '-' ∨ (c = ')' ∧ seen = []) then none else some (mode, c, rest)
      else if seen.contains c then none
      else if c = '-' then letters? mode false (c :: seen) rest
      else (mode.set? on c).bind (fun mode => letters? mode on (c :: seen) rest)

end Mode
end Radius.Pattern
