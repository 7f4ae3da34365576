-- SUMMARY: Which texts are patterns: groups, branches and repetition, and how deep they nest.
import Radius.Pattern.CharClass
import Radius.Text.Alphanumeric

/-!
# Reading patterns

A pattern is branches with bars between, and a branch is items in a row: atoms, sets of
characters, groups in parentheses, and letters that set the mode up to the end of the
group. A star, a plus sign or a question mark repeats the item in front of it, and a
question mark behind that makes the repetition short. A text is a pattern if it can be
read to its end and nests no deeper than a bound.
-/

namespace Radius.Pattern

/-! ## Groups -/

/-- A group that is not closed yet. -/
structure Group where
  mode : Mode
  /-- How deep the finished branches nest. -/
  branches : List Nat
  /-- How deep the items of the branch at the end nest, last one first. No depth stands for
  letters that set the mode, which cannot be repeated. -/
  items : List (Option Nat)
deriving DecidableEq, Repr

namespace Group

def empty (mode : Mode) : Group := ⟨mode, [], []⟩

def add (group : Group) (depth : Nat) : Group := { group with items := some depth :: group.items }

/-- Set the mode up to the end of the group. -/
def enter (group : Group) (mode : Mode) : Group :=
  { group with mode := mode, items := none :: group.items }

/-- Begin another branch. -/
def branch (group : Group) : Group :=
  { group with branches := rowDepth (group.items.map (·.getD 0)) :: group.branches, items := [] }

/-- How deep the content of a group nests. -/
def depth (group : Group) : Nat := rowDepth group.branch.branches

/-- Repeat the item at the end. -/
def repeat? (group : Group) : Option Group :=
  match group.items with
  | some depth :: items => some { group with items := some (depth + 1) :: items }
  | _                   => none

end Group

/-- What an opening parenthesis begins. -/
inductive Opening where
  | group (mode : Mode)
  | namedGroup (name : List Char)
  | letters (mode : Mode)
deriving DecidableEq, Repr

/-- Whether a text is the name of a group. -/
def isName : List Char → Bool
  | []        => false
  | c :: rest =>
      (c = '_' || CharSet.alphabetic.has c) &&
      rest.all (fun c => c = '_' || c = '.' || c = '[' || c = ']' || CharSet.isAlphanumeric c)

/-- The name up to an angle bracket, and what follows it. -/
def named? (text : List Char) : Option (Opening × List Char) :=
  let name := text.takeWhile (· ≠ '>')
  match text.drop name.length with
  | '>' :: rest => if isName name then some (.namedGroup name, rest) else none
  | _           => none

/-- What the parenthesis in front of a text begins, and what follows. -/
def opening? (mode : Mode) : List Char → Option (Opening × List Char)
  | '?' :: 'P' :: '<' :: rest => named? rest
  | '?' :: '<' :: rest        => named? rest
  | '?' :: rest               =>
      (mode.letters? true [] rest).map (fun (mode, last, rest) =>
        (if last = ':' then .group mode else .letters mode, rest))
  | text                      => some (.group mode, text)

/-! ## Reading -/

/-- How deep a pattern nests that goes on with a text. Names of groups are given once; around the
group that is read stand groups that are not closed yet. -/
def depthFrom? : (fuel : Nat) → (names : List (List Char)) → (around : List Group) → Group →
    List Char → Option Nat
  | 0,        _,     _,      _,     _    => none
  | fuel + 1, names, around, group, text =>
      let mode := group.mode
      match mode.skip text with
      | [] => if around.isEmpty then some group.depth else none
      | '(' :: rest =>
          match opening? mode (mode.skip rest) with
          | none                           => none
          | some (.letters mode, rest)     => depthFrom? fuel names around (group.enter mode) rest
          | some (.group mode, rest)       =>
              depthFrom? fuel names (group :: around) (.empty mode) rest
          | some (.namedGroup name, rest) =>
              if names.contains name then none
              else depthFrom? fuel (name :: names) (group :: around) (.empty mode) rest
      | ')' :: rest =>
          match around with
          | []              => none
          | outer :: around => depthFrom? fuel names around (outer.add (1 + group.depth)) rest
      | '|' :: rest => depthFrom? fuel names around group.branch rest
      | '[' :: rest =>
          (CharClass.read? mode fuel rest).bind (fun (depth, rest) =>
            depthFrom? fuel names around (group.add depth) rest)
      | '*' :: rest | '+' :: rest | '?' :: rest =>
          group.repeat?.bind (fun group =>
            depthFrom? fuel names around group (if rest.head? = some '?' then rest.tail else rest))
      | '\x7b' :: _ => none
      | '.' :: rest => if mode.ascii then none else depthFrom? fuel names around (group.add 0) rest
      | '^' :: rest | '$' :: rest => depthFrom? fuel names around (group.add 0) rest
      | text =>
          (Atom.read? mode text).bind (fun (atom, rest) =>
            if atom.mayStand mode then depthFrom? fuel names around (group.add 0) rest else none)

/-- How deep a pattern nests; none if a text is no pattern. -/
def depth? (text : List Char) : Option Nat :=
  depthFrom? (text.length + 1) [] [] (.empty .initial) text

/-- How deep a pattern may nest. -/
def maxDepth : Nat := 250

/-- Whether a text is a pattern. -/
def isPattern (text : List Char) : Bool := (depth? text).any (· ≤ maxDepth)

end Radius.Pattern
