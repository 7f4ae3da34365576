-- SUMMARY: The text of JSON strings: escapes, surrogate pairs, and which characters are escaped.
import Radius.Text.Hex

/-!
# JSON strings

Inside its quotes a string is characters and escapes. An escape of four hexadecimal
digits names sixteen bits: a character, or one half of a pair that names a character
beyond them. Writing escapes the quote, the backslash and control characters, and
nothing else.
-/

namespace Radius.Json

/-! ## Reading -/

/-- One piece of a string. -/
inductive Piece where
  | char (c : Char)
  /-- Sixteen bits, from an escape with four digits. -/
  | unit (bits : Nat)
deriving DecidableEq, Repr

/-- The character that a backslash and this character stand for. -/
def shortEscape? : Char → Option Char
  | '"'  => some '"'
  | '\\' => some '\\'
  | '/'  => some '/'
  | 'b'  => some '\x08'
  | 'f'  => some '\x0c'
  | 'n'  => some '\n'
  | 'r'  => some '\x0d'
  | 't'  => some '\t'
  | _    => none

/-- The number that hexadecimal digits write. -/
def hexValue? (digits : List Char) : Option Nat :=
  digits.foldlM (fun value c => (Hex.digit? c).map (value * 16 + ·)) 0

/-- Read the inside of a string and its closing quote. -/
def readPieces : List Char → Option (List Piece × List Char)
  | [] => none
  | '"' :: rest => some ([], rest)
  | '\\' :: 'u' :: a :: b :: c :: d :: rest =>
      match hexValue? [a, b, c, d], readPieces rest with
      | some bits, some (pieces, rest) => some (.unit bits :: pieces, rest)
      | _,         _                   => none
  | '\\' :: e :: rest =>
      match shortEscape? e, readPieces rest with
      | some c, some (pieces, rest) => some (.char c :: pieces, rest)
      | _,      _                   => none
  | c :: rest =>
      if c = '\\' ∨ c.toNat < 0x20 then none
      else
        match readPieces rest with
        | some (pieces, rest) => some (.char c :: pieces, rest)
        | none                => none

def isHighSurrogate (bits : Nat) : Bool := 0xD800 ≤ bits ∧ bits < 0xDC00
def isLowSurrogate (bits : Nat) : Bool := 0xDC00 ≤ bits ∧ bits < 0xE000

/-- The characters of pieces; none if half of a pair stands alone. -/
def join? : List Piece → Option (List Char)
  | [] => some []
  | .char c :: later => (join? later).map (c :: ·)
  | .unit high :: .unit low :: later =>
      if isHighSurrogate high ∧ isLowSurrogate low then
        let c := Char.ofNat (0x10000 + (high - 0xD800) * 0x400 + (low - 0xDC00))
        (join? later).map (c :: ·)
      else if isHighSurrogate high ∨ isLowSurrogate high then none
      else (join? (.unit low :: later)).map (Char.ofNat high :: ·)
  | .unit bits :: later =>
      if isHighSurrogate bits ∨ isLowSurrogate bits then none
      else (join? later).map (Char.ofNat bits :: ·)

/-! ## Writing -/

/-- A character as it stands in a string. -/
def escape (c : Char) : List Char :=
  match c with
  | '"'    => ['\\', '"']
  | '\\'   => ['\\', '\\']
  | '\x08' => ['\\', 'b']
  | '\x0c' => ['\\', 'f']
  | '\n'   => ['\\', 'n']
  | '\x0d' => ['\\', 'r']
  | '\t'   => ['\\', 't']
  | c      =>
      if c.toNat < 0x20 then ['\\', 'u', '0', '0'] ++ Hex.octetChars (UInt8.ofNat c.toNat) else [c]

/-- A text between quotes. -/
def quote (text : String) : List Char := '"' :: text.toList.flatMap escape ++ ['"']

end Radius.Json
