-- SUMMARY: UTF-8: writing text as octets, reading it strictly with the place of a fault, and reading it with replacement characters.
import Radius.Bytes

/-!
# UTF-8

`encode` writes each character in one to four octets. `decode` accepts well-formed
octets only and says where and how they fail otherwise; `decodeLossy` puts U+FFFD in
the place of each maximal ill-formed run and never fails. Both read one character at
a time with `next`: a leading octet announces how many continuation octets it is
owed and the range of the first of them, which rules out overlong forms,
surrogates and everything above U+10FFFF.
-/

namespace Radius.Utf8

/-! ## Writing -/

/-- The octets of one character. -/
def encodeChar (c : Char) : Bytes :=
  let n := c.toNat
  if n < 0x80 then [UInt8.ofNat n]
  else if n < 0x800 then [UInt8.ofNat (0xC0 + n / 0x40), UInt8.ofNat (0x80 + n % 0x40)]
  else if n < 0x10000 then
    [UInt8.ofNat (0xE0 + n / 0x1000), UInt8.ofNat (0x80 + n / 0x40 % 0x40),
      UInt8.ofNat (0x80 + n % 0x40)]
  else
    [UInt8.ofNat (0xF0 + n / 0x40000), UInt8.ofNat (0x80 + n / 0x1000 % 0x40),
      UInt8.ofNat (0x80 + n / 0x40 % 0x40), UInt8.ofNat (0x80 + n % 0x40)]

def encode (text : String) : Bytes := text.toList.flatMap encodeChar

/-! ## One character -/

/-- What a leading octet announces. -/
structure Lead where
  /-- The continuation octets it is owed. -/
  owed : Nat
  /-- The least value of the first of them. -/
  low : Nat
  /-- The greatest value of the first of them. -/
  high : Nat
  /-- The bits of the character in the leading octet itself. -/
  bits : Nat
deriving Repr, DecidableEq

/-- The announcement of a leading octet; none for an octet that can lead no character. -/
def Lead.ofOctet? (octet : UInt8) : Option Lead :=
  let n := octet.toNat
  if n < 0x80 then some ⟨0, 0, 0, n⟩
  else if n < 0xC2 then none
  else if n < 0xE0 then some ⟨1, 0x80, 0xBF, n - 0xC0⟩
  else if n < 0xF0 then
    some ⟨2, if n = 0xE0 then 0xA0 else 0x80, if n = 0xED then 0x9F else 0xBF, n - 0xE0⟩
  else if n < 0xF5 then
    some ⟨3, if n = 0xF0 then 0x90 else 0x80, if n = 0xF4 then 0x8F else 0xBF, n - 0xF0⟩
  else none

/-- How reading one character can end. -/
inductive Step where
  | char (c : Char) (rest : Bytes)
  /-- The first `length` octets can begin no character; `rest` follows them. -/
  | illFormed (length : Nat) (rest : Bytes)
  /-- The octets end inside a character. -/
  | cut
deriving Repr, DecidableEq

/-- Read the continuation octets that are owed, `read` octets into the character. -/
def continuation (low high bits read : Nat) : (owed : Nat) → Bytes → Step
  | 0,        rest          => .char (Char.ofNat bits) rest
  | _ + 1,    []            => .cut
  | owed + 1, octet :: rest =>
      if low ≤ octet.toNat ∧ octet.toNat ≤ high then
        continuation 0x80 0xBF (bits * 0x40 + (octet.toNat - 0x80)) (read + 1) owed rest
      else .illFormed read (octet :: rest)

/-- Read the character that begins with `octet`. -/
def next (octet : UInt8) (rest : Bytes) : Step :=
  match Lead.ofOctet? octet with
  | none      => .illFormed 1 rest
  | some lead => continuation lead.low lead.high lead.bits 1 lead.owed rest

theorem length_rest_of_continuation (low high bits read owed : Nat) (bytes : Bytes) :
    (∀ c rest, continuation low high bits read owed bytes = .char c rest → rest.length ≤ bytes.length) ∧
    (∀ n rest, continuation low high bits read owed bytes = .illFormed n rest →
      rest.length ≤ bytes.length) := by
  induction owed generalizing low high bits read bytes with
  | zero => simp [continuation]
  | succ owed ih =>
      cases bytes with
      | nil => simp [continuation]
      | cons octet bytes =>
          have h := ih 0x80 0xBF (bits * 0x40 + (octet.toNat - 0x80)) (read + 1) bytes
          simp only [continuation]
          split
          · exact ⟨fun c rest hc => Nat.le_succ_of_le (h.1 c rest hc),
              fun n rest hn => Nat.le_succ_of_le (h.2 n rest hn)⟩
          · simp

theorem length_rest_of_next_char {octet : UInt8} {bytes rest : Bytes} {c : Char}
    (h : next octet bytes = .char c rest) : rest.length ≤ bytes.length := by
  unfold next at h
  split at h
  · cases h
  · exact (length_rest_of_continuation _ _ _ _ _ _).1 _ _ h

theorem length_rest_of_next_illFormed {octet : UInt8} {bytes rest : Bytes} {n : Nat}
    (h : next octet bytes = .illFormed n rest) : rest.length ≤ bytes.length := by
  unfold next at h
  split at h
  · cases h
    exact Nat.le_refl _
  · exact (length_rest_of_continuation _ _ _ _ _ _).2 _ _ h

/-! ## Whole texts -/

/-- Why octets are no UTF-8, with the index of the first octet of the fault. -/
inductive Error where
  | illFormed (length index : Nat)
  | cut (index : Nat)
deriving Repr, DecidableEq

def Error.message : Error → String
  | .illFormed length index =>
      s!"invalid utf-8 sequence of {length} bytes from index {index}"
  | .cut index => s!"incomplete utf-8 byte sequence from index {index}"

/-- Read well-formed octets that stand `index` octets into the input. -/
def decodeFrom (index : Nat) (bytes : Bytes) : Except Error (List Char) :=
  match bytes with
  | [] => .ok []
  | octet :: rest =>
      match h : next octet rest with
      | .char c rest' =>
          have := length_rest_of_next_char h
          match decodeFrom (index + (encodeChar c).length) rest' with
          | .ok chars    => .ok (c :: chars)
          | .error fault => .error fault
      | .illFormed length _ => .error (.illFormed length index)
      | .cut                => .error (.cut index)
termination_by bytes.length

/-- The text that well-formed octets write. -/
def decode (bytes : Bytes) : Except Error String := (decodeFrom 0 bytes).map String.ofList

def replacement : Char := '\uFFFD'

/-- The characters of a byte string, with U+FFFD for each maximal ill-formed run. -/
def lossyChars (bytes : Bytes) : List Char :=
  match bytes with
  | [] => []
  | octet :: rest =>
      match h : next octet rest with
      | .char c rest' =>
          have := length_rest_of_next_char h
          c :: lossyChars rest'
      | .illFormed _ rest' =>
          have := length_rest_of_next_illFormed h
          replacement :: lossyChars rest'
      | .cut => [replacement]
termination_by bytes.length

def decodeLossy (bytes : Bytes) : String := String.ofList (lossyChars bytes)

end Radius.Utf8
