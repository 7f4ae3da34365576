-- SUMMARY: The sets of characters that a pattern writes between brackets, and how deep they nest.
import Radius.Pattern.Atom

/-!
# Sets of characters in a pattern

Brackets hold characters, ranges of characters, kinds of characters and further sets.
Two equal signs of `&`, `-` or `~` join what stands on their sides. A caret in front
means every other character. Behind the opening bracket a hyphen stands for itself,
and so does a closing bracket if it is the first item.

How deep items nest counts the sets, the joins, and the rows of two or more items.
-/

namespace Radius.Pattern

/-- How deep a row of items nests: one item nests no deeper for standing in a row. -/
def rowDepth : List Nat → Nat
  | []     => 0
  | [item] => item
  | items  => 1 + items.foldl max 0

/-- A set that is not closed yet. -/
structure CharClass where
  /-- How deep nests what stands on the left of the last join. -/
  left : Option Nat
  /-- How deep the items behind it nest. -/
  items : List Nat
  /-- A hyphen that comes next stands for itself. -/
  fresh : Bool
deriving DecidableEq, Repr

namespace CharClass

def empty : CharClass := ⟨none, [], true⟩

/-- How deep the content of a set nests. -/
def depth (set : CharClass) : Nat :=
  match set.left with
  | none      => rowDepth set.items
  | some left => 1 + max left (rowDepth set.items)

/-- Add an item. -/
def add (set : CharClass) (depth : Nat) : CharClass :=
  { set with items := depth :: set.items, fresh := false }

/-- Add a character that stands for itself. -/
def addCharacter? (set : CharClass) (mode : Mode) (c : Char) : Option CharClass :=
  if (Atom.character c).mayBeMember mode then some (set.add 0) else none

/-- Begin the right side of a join. -/
def join (set : CharClass) : CharClass := ⟨some set.depth, [], false⟩

/-! ## Reading -/

/-- What follows the caret that may stand behind an opening bracket. In the ASCII mode there is no
caret, for the other octets lie beyond ASCII. -/
def behindCaret? (mode : Mode) (text : List Char) : Option (List Char) :=
  match mode.skip text with
  | '^' :: rest => if mode.ascii then none else some rest
  | text        => some text

/-- What follows the signs of a join. -/
def behindJoin? : List Char → Option (List Char)
  | '&' :: '&' :: rest => some rest
  | '-' :: '-' :: rest => some rest
  | '~' :: '~' :: rest => some rest
  | _                  => none

/-- The names of kinds of characters. -/
def kindNames : List String := [
  "alnum", "alpha", "ascii", "blank", "cntrl", "digit", "graph", "lower", "print", "punct",
  "space", "upper", "word", "xdigit"]

/-- Whether a caret stands in front of the name of a kind, which stands between colons, and what
follows the bracket behind it. -/
def kind? : List Char → Option (Bool × List Char)
  | ':' :: text =>
      let others := text.head? = some '^'
      let text := if others then text.tail else text
      match text.dropWhile (· ≠ ':') with
      | ':' :: ']' :: rest =>
          if kindNames.contains (String.ofList (text.takeWhile (· ≠ ':'))) then some (others, rest)
          else none
      | _ => none
  | _ => none

/-- Whether the name of a kind, or of the others, may be an item of a set. -/
def admitsKind (mode : Mode) (others : Bool) : Bool :=
  if mode.ascii then !others else !mode.anyCase

/-- What follows a character, a kind or a range of characters. -/
def behindMember? (mode : Mode) (text : List Char) : Option (List Char) := do
  let (atom, rest) ← Atom.read? mode text
  match mode.skip rest with
  | '-' :: behind =>
      if mode.ahead? behind = some ']' ∨ mode.ahead? behind = some '-' then
        if atom.mayBeMember mode then some ('-' :: behind) else none
      else
        let first ← atom.member? mode
        let (atom, rest) ← Atom.read? mode (mode.skip behind)
        let last ← atom.member? mode
        if first ≤ last then some rest else none
  | rest => if atom.mayBeMember mode then some rest else none

/-- How deep a set nests whose content goes on with a text, and what follows the set. Around it
stand sets that are not closed yet. -/
def close? (mode : Mode) : (fuel : Nat) → (around : List CharClass) → CharClass →
    List Char → Option (Nat × List Char)
  | 0,        _,      _,   _    => none
  | fuel + 1, around, set, text =>
      match mode.skip text with
      | [] => none
      | '[' :: rest =>
          match kind? rest with
          | some (others, rest) =>
              if admitsKind mode others then close? mode fuel around (set.add 0) rest else none
          | none => (behindCaret? mode rest).bind (close? mode fuel (set :: around) empty)
      | ']' :: rest =>
          if set.fresh ∧ set.items = [] then
            (set.addCharacter? mode ']').bind (close? mode fuel around · rest)
          else
            match around with
            | []              => some (1 + set.depth, rest)
            | outer :: around => close? mode fuel around (outer.add (1 + set.depth)) rest
      | text =>
          if set.fresh ∧ text.head? = some '-' then
            (set.addCharacter? mode '-').bind (fun set =>
              close? mode fuel around { set with fresh := true } text.tail)
          else
            match behindJoin? text with
            | some rest => close? mode fuel around set.join rest
            | none      => (behindMember? mode text).bind (close? mode fuel around (set.add 0))

/-- How deep the set nests behind an opening bracket, and what follows it. More fuel than there are
characters is enough. -/
def read? (mode : Mode) (fuel : Nat) (text : List Char) : Option (Nat × List Char) :=
  (behindCaret? mode text).bind (close? mode fuel [] empty)

end CharClass
end Radius.Pattern
