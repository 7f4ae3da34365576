-- SUMMARY: Typed values by indices, slices and copies, and hexadecimal text by cuts: no octets and no text traps them, and they come to what values come to.
import Radius.Dictionary.Basic
import Radius.Proofs.Raw.Basic
import Radius.Proofs.Text.Hexadecimal

/-!
# Values by slices

What is written of a prefix is a slice of its address, which is there because a prefix counts no
more bits than an address has, wherever it is read from. What is read of one is copied over an
address once its length is checked. Hexadecimal text is cut at every other octet, which is between
characters because it is checked that all of them take one octet each.
-/

namespace Radius

/-! ## Texts of one octet a character -/

theorem Cut.size_of_ascii {text : List Char} (h : ∀ c ∈ text, c.toNat < 0x80) :
    Cut.size text = text.length := by
  induction text with
  | nil => rfl
  | cons c rest ih =>
      obtain ⟨hc, hrest⟩ := List.forall_mem_cons.mp h
      have hone : c.utf8Size = 1 := Char.utf8Size_eq_one_iff.mpr (Nat.le_of_lt_succ hc)
      rw [Cut.size, hone, ih hrest, List.length_cons, Nat.add_comm]

theorem Cut.size_append (front rest : List Char) :
    Cut.size (front ++ rest) = Cut.size front + Cut.size rest := by
  induction front with
  | nil => rw [List.nil_append, Cut.size, Nat.zero_add]
  | cons c front ih => rw [List.cons_append, Cut.size, Cut.size, ih, Nat.add_assoc]

namespace Hex

theorem IsDigit.ascii {c : Char} {value : Nat} (h : IsDigit c value) : c.toNat < 0x80 := by
  obtain ⟨hvalue, hc⟩ := h
  have hall : ∀ value < 16,
      value.digitChar.toNat < 0x80 ∧ value.digitChar.toUpper.toNat < 0x80 := by decide
  rcases hc with rfl | rfl
  · exact (hall value hvalue).1
  · exact (hall value hvalue).2

/-- A text that is read has an even number of characters, of one octet each. -/
theorem ascii_of_pairs? {text : List Char} {bytes : Bytes} (h : pairs? text = some bytes) :
    (∀ c ∈ text, c.toNat < 0x80) ∧ text.length = 2 * bytes.length := by
  have hpairs := pairs?_eq_some_iff.mp h
  clear h
  induction hpairs with
  | nil => exact ⟨List.forall_mem_nil _, rfl⟩
  | cons hpair _ ih =>
      obtain ⟨hascii, hlength⟩ := ih
      simp only [List.forall_mem_cons, List.length_cons]
      refine ⟨?_, by omega⟩
      rcases hpair with ⟨hfirst, hsecond⟩ | hsigned
      · exact ⟨hfirst.ascii, hsecond.ascii, hascii⟩
      · cases hsigned with
        | digit hsecond => exact ⟨by decide, hsecond.ascii, hascii⟩

end Hex

namespace Raw

/-! ## Octets of values -/

/-- The octets of a value. -/
def toBytes {ε : Type} : Value → Raw ε Bytes
  | .ipv6Prefix address bits => do
      return 0 :: bits :: (← sliceTo address.octets.bytes (Value.significantOctets bits))
  | value => .done value.toBytes

theorem toBytes_of_has {ε : Type} {kind : Kind} {value : Value} (h : kind.Has value) :
    (toBytes value : Raw ε Bytes) = .done value.toBytes := by
  cases value with
  | ipv6Prefix address bits => rw [toBytes, sliceTo_of_le h.bits_le.2, done_bind]; rfl
  | string | integer | ipv4 | ipv6 | octets => rfl

def decodePrefix (bytes : Bytes) : Raw PacketError Value := do
  if ¬ (2 ≤ bytes.length ∧ bytes.length ≤ 18) then
    .failed (.invalidValue (.prefixBytes bytes.length))
  else
    let bits ← item bytes 1
    if 128 < bits.toNat then .failed (.invalidValue (.prefixBits bits.toNat))
    else
      let octets ← overwrite (Octets.zero 16) (bytes.length - 2) (← sliceFrom bytes 2)
      return .ipv6Prefix ⟨octets⟩ bits

theorem decodePrefix_eq (bytes : Bytes) :
    decodePrefix bytes = ofExcept (Kind.decodePrefix bytes) := by
  match bytes with
  | [] | [_] => rfl
  | reserved :: bits :: address =>
      unfold decodePrefix Kind.decodePrefix
      dsimp only
      by_cases hlong : 16 < address.length
      · rw [if_pos (by simp; omega), if_pos hlong]
        rfl
      · rw [if_neg (by simp; omega), if_neg hlong, item_of_getElem? rfl, done_bind]
        split
        · rfl
        · rw [sliceFrom_of_le (by simp), done_bind, overwrite_zero (by simp; omega) (by simp),
            done_bind]
          rfl

/-- Read octets as a value of a kind. -/
def decode (kind : Kind) (bytes : Bytes) : Raw PacketError Value :=
  match kind with
  | .ipv6Prefix => decodePrefix bytes
  | kind        => ofExcept (kind.decode bytes)

theorem decode_eq (kind : Kind) (bytes : Bytes) :
    decode kind bytes = ofExcept (kind.decode bytes) := by
  cases kind with
  | ipv6Prefix => exact decodePrefix_eq bytes
  | string | integer | ipv4 | ipv6 | octets | vendorSpecific => rfl

/-- The octets and the text of the value that octets are read as. -/
def rewritten (kind : Kind) (bytes : Bytes) : Raw PacketError (Bytes × String) := do
  let value ← decode kind bytes
  return (← toBytes value, value.toText)

theorem rewritten_eq (kind : Kind) (bytes : Bytes) :
    rewritten kind bytes =
      ofExcept ((kind.decode bytes).map fun value => (value.toBytes, value.toText)) := by
  rw [rewritten, decode_eq]
  cases hvalue : kind.decode bytes with
  | error fault => rfl
  | ok value =>
      rw [ofExcept_ok, done_bind, toBytes_of_has (Kind.has_of_decode hvalue)]
      rfl

/-- The text of octets that are to have a value of the kind that a definition gives. -/
def formatValue {ε : Type} (definition : AttributeDefinition) (bytes : Bytes) : Raw ε String := do
  match ← attempt (decode definition.kind bytes) with
  | .ok (.integer value) => return (definition.labels.label? value).getD (toString value.toNat)
  | .ok value            => return value.toText
  | .error _             => return (Value.octets bytes).toText

theorem formatValue_eq {ε : Type} (definition : AttributeDefinition) (bytes : Bytes) :
    (formatValue definition bytes : Raw ε String) = .done (definition.formatValue bytes) := by
  rw [formatValue, decode_eq, attempt_ofExcept, done_bind, AttributeDefinition.formatValue]
  cases definition.kind.decode bytes with
  | error fault => rfl
  | ok value => cases value <;> rfl

/-! ## Text of values -/

/-- The octet that a piece of two octets writes. -/
def pairOf? : List Char → Option UInt8
  | [first, second] => Hex.pair? first second
  | _               => none

/-- The octets that the pieces at these places write. -/
def pairsAt (text : String) (digits : List Char) : (places : List Nat) → Raw PacketError Bytes
  | []             => return []
  | place :: later => do
      let piece ← cut digits place (place + 2)
      let octet ← ofExcept (Kind.readable "hex value" text (pairOf? piece))
      return octet :: (← pairsAt text digits later)

/-- The octets of a hexadecimal text, with or without its mark. -/
def hexOctets (text : String) : Raw PacketError Bytes :=
  let digits := Hex.dropMark text.toList
  if digits.all (fun c => c.toNat < 0x80) ∧ Cut.size digits % 2 = 0 then
    pairsAt text digits (List.range' 0 (Cut.size digits / 2) 2)
  else .failed (.invalidValue (.unreadable "hex value" text))

/-- Behind any front, pairs of characters of one octet each are cut and read. -/
theorem pairsAt_eq (text : String) (front : List Char) {rest : List Char} {count : Nat}
    (hascii : ∀ c ∈ rest, c.toNat < 0x80) (hlength : rest.length = 2 * count) :
    pairsAt text (front ++ rest) (List.range' (Cut.size front) count 2) =
      ofExcept (Kind.readable "hex value" text (Hex.pairs? rest)) := by
  induction count generalizing front rest with
  | zero =>
      rw [Nat.mul_zero, List.length_eq_zero_iff] at hlength
      subst hlength
      rfl
  | succ count ih =>
      match rest with
      | [] | [_] =>
          simp only [List.length_cons, List.length_nil] at hlength
          omega
      | first :: second :: later =>
          obtain ⟨hfirst, hsecond, hlater⟩ : first.toNat < 0x80 ∧ second.toNat < 0x80 ∧
              ∀ c ∈ later, c.toNat < 0x80 := by simpa only [List.forall_mem_cons] using hascii
          have hsize : Cut.size [first, second] = 2 :=
            Cut.size_of_ascii (by simp [hfirst, hsecond])
          have hpiece := cut_append (ε := PacketError) front [first, second] later
          have hfront : Cut.size (front ++ [first, second]) = Cut.size front + 2 := by
            rw [Cut.size_append, hsize]
          have hcount : later.length = 2 * count := by
            simp only [List.length_cons] at hlength
            omega
          have hrest := ih (front ++ [first, second]) hlater hcount
          rw [hfront, List.append_assoc] at hrest
          rw [hsize] at hpiece
          change pairsAt text (front ++ ([first, second] ++ later)) _ = _
          rw [List.range'_succ, pairsAt, hpiece, done_bind, hrest, pairOf?, Hex.pairs?]
          cases Hex.pair? first second with
          | none => rfl
          | some octet => cases Hex.pairs? later <;> rfl

theorem hexOctets_eq (text : String) :
    hexOctets text = ofExcept (Kind.readable "hex value" text (Hex.decode? text)) := by
  unfold hexOctets Hex.decode?
  generalize Hex.dropMark text.toList = digits
  dsimp only
  split
  · rename_i hchecked
    simp only [List.all_eq_true, decide_eq_true_eq] at hchecked
    obtain ⟨hascii, heven⟩ := hchecked
    rw [Cut.size_of_ascii hascii] at heven ⊢
    exact pairsAt_eq text [] hascii (by omega)
  · rename_i hunchecked
    cases hpairs : Hex.pairs? digits with
    | none => rfl
    | some bytes =>
        obtain ⟨hascii, hlength⟩ := Hex.ascii_of_pairs? hpairs
        simp only [List.all_eq_true, decide_eq_true_eq] at hunchecked
        exact absurd ⟨hascii, by rw [Cut.size_of_ascii hascii]; omega⟩ hunchecked

/-- Read the value of a kind from text. -/
def parseValue : Kind → String → Raw PacketError Value
  | .octets,         text => do return .octets (← hexOctets text)
  | .vendorSpecific, text => do return .octets (← hexOctets text)
  | kind,            text => ofExcept (kind.parseValue text)

theorem parseValue_eq (kind : Kind) (text : String) :
    parseValue kind text = ofExcept (kind.parseValue text) := by
  cases kind with
  | octets | vendorSpecific =>
      rw [parseValue, hexOctets_eq, Kind.parseValue]
      cases Hex.decode? text <;> rfl
  | string | integer | ipv4 | ipv6 | ipv6Prefix => rfl

/-- The octets of a kind that a text writes. -/
def parse (kind : Kind) (text : String) : Raw PacketError Bytes := do
  toBytes (← parseValue kind text)

theorem parse_eq (kind : Kind) (text : String) :
    parse kind text = ofExcept (kind.parse text) := by
  rw [parse, parseValue_eq, Kind.parse]
  cases hvalue : kind.parseValue text with
  | error fault => rfl
  | ok value => exact toBytes_of_has (Kind.has_of_parseValue hvalue)

end Raw
end Radius
