-- SUMMARY: White space, words and lines of a text, and ASCII case.

/-!
# The layout of text

A text is a sequence of lines, and a line a sequence of words set apart by white
space. White space is the Unicode property White_Space. A line ends with a line
feed; a carriage return in front of it is white space at the end of the line. Case
folding touches ASCII letters only.
-/

namespace Radius.Layout

/-! ## White space -/

/-- The Unicode property White_Space. -/
def isBlank (c : Char) : Bool :=
  let n := c.toNat
  (0x09 ≤ n && n ≤ 0x0D) || n = 0x20 || n = 0x85 || n = 0xA0 || n = 0x1680 ||
  (0x2000 ≤ n && n ≤ 0x200A) || n = 0x2028 || n = 0x2029 || n = 0x202F || n = 0x205F || n = 0x3000

/-- A text without the white space at its ends. -/
def trim (text : List Char) : List Char :=
  ((text.dropWhile isBlank).reverse.dropWhile isBlank).reverse

/-! ## Words -/

/-- The maximal runs of characters other than white space. -/
def words : List Char → List (List Char)
  | []        => []
  | [c]       => if isBlank c then [] else [[c]]
  | c :: d :: rest =>
      if isBlank c then words (d :: rest)
      else if isBlank d then [c] :: words (d :: rest)
      else
        match words (d :: rest) with
        | []            => [[c]]
        | word :: later => (c :: word) :: later

/-! ## Lines -/

/-- The runs of characters between line feeds. What follows the last line feed is a line only
when it is not empty. -/
def lines : List Char → List (List Char)
  | []        => []
  | c :: rest =>
      if c = '\n' then [] :: lines rest
      else
        match lines rest with
        | []            => [[c]]
        | line :: later => (c :: line) :: later

/-! ## Case -/

/-- A text with its ASCII letters in upper case. -/
def upper (text : List Char) : List Char := text.map Char.toUpper

/-- A text with its ASCII letters in lower case. -/
def lower (text : List Char) : List Char := text.map Char.toLower

end Radius.Layout
