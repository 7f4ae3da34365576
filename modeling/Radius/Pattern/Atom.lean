-- SUMMARY: The smallest items of a pattern: characters, kinds of characters, and places.
import Radius.Pattern.Mode
import Radius.Text.Hex

/-!
# The atoms of a pattern

An atom is a character, a kind of characters, or a place between characters. A
backslash gives a letter a meaning and takes the meaning of any other sign of ASCII
away.

Nothing is known about characters beyond ASCII: neither their case nor whether they
are digits or make words. So an atom that asks for this stands in the ASCII mode only,
and there no atom may match a piece of a character that is beyond ASCII.
-/

namespace Radius.Pattern

inductive Atom where
  | character (c : Char)
  /-- A character by its number, which is an octet. -/
  | octet (c : Char)
  /-- A digit, white space, or a character of words. -/
  | kind
  /-- A place between a word and what is no word. -/
  | border
  /-- The begin or the end of the text. -/
  | edge
deriving DecidableEq, Repr

namespace Atom

/-! ## Where an atom may stand -/

/-- Whether an atom may be an item of a pattern. -/
def mayStand (mode : Mode) : Atom → Bool
  | .character _ => mode.ascii || !mode.anyCase
  | .octet c     => if mode.ascii then c.toNat < 0x80 else !mode.anyCase
  | .kind        => mode.ascii
  | .border      => mode.ascii
  | .edge        => true

/-- The character that an atom is for a set of characters. -/
def member? (mode : Mode) : Atom → Option Char
  | .character c | .octet c =>
      if (if mode.ascii then c.toNat < 0x80 else !mode.anyCase) then some c else none
  | _ => none

/-- Whether an atom may be an item of a set of characters. -/
def mayBeMember (mode : Mode) : Atom → Bool
  | .kind => mode.ascii
  | atom  => (atom.member? mode).isSome

/-! ## Reading -/

/-- The number that hexadecimal digits write behind a number read so far, and what follows. -/
def number? (mode : Mode) : (digits value : Nat) → List Char → Option (Nat × List Char)
  | 0,          value, text => some (value, text)
  | digits + 1, value, text =>
      match mode.skip text with
      | []        => none
      | c :: rest => (Hex.digit? c).bind (fun d => number? mode digits (16 * value + d) rest)

/-- The character that has a number with so many digits, and what follows. -/
def numbered? (mode : Mode) (digits : Nat) (text : List Char) : Option (Char × List Char) :=
  (number? mode digits 0 text).bind (fun (n, rest) =>
    if n.isValidChar then some (Char.ofNat n, rest) else none)

/-- The atom behind a backslash, and what follows it. -/
def escaped? (mode : Mode) : List Char → Option (Atom × List Char)
  | []        => none
  | c :: rest =>
      match c with
      | 'x' => (numbered? mode 2 rest).map (fun (c, rest) => (.octet c, rest))
      | 'u' => (numbered? mode 4 rest).map (fun (c, rest) => (.character c, rest))
      | 'U' => (numbered? mode 8 rest).map (fun (c, rest) => (.character c, rest))
      | 'a' => some (.character '\x07', rest)
      | 'f' => some (.character '\x0C', rest)
      | 'n' => some (.character '\n', rest)
      | 'r' => some (.character '\r', rest)
      | 't' => some (.character '\t', rest)
      | 'v' => some (.character '\x0B', rest)
      | 'd' | 's' | 'w'       => some (.kind, rest)
      | 'b' | 'B' | '<' | '>' => some (.border, rest)
      | 'A' | 'z'             => some (.edge, rest)
      | _ => if c.toNat < 0x80 && !c.isAlphanum then some (.character c, rest) else none

/-- The atom that a text begins with, and what follows it. -/
def read? (mode : Mode) : List Char → Option (Atom × List Char)
  | []           => none
  | '\\' :: rest => escaped? mode rest
  | c :: rest    => some (.character c, rest)

end Atom
end Radius.Pattern
