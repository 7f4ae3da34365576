-- SUMMARY: Octets, typed values and text of every kind agree: what is written as one of them is read back.
import Radius.Proofs.Address.Reading
import Radius.Proofs.Outcome
import Radius.Proofs.Text.Utf8
import Radius.Value.Text

/-!
# The forms of a value

A value of a kind has a text and it has octets. Both are read back, the text as the very value and
the octets as one with the same octets: of a prefix they hold only the bits that it counts, in whole
octets. Whatever is read, from octets or from text, is a value of the kind, and a prefix among them
counts no more bits than an address has.
-/

namespace Radius

/-! ## Values of a kind -/

theorem Value.significantOctets_le {bits : UInt8} (h : bits.toNat ≤ 128) :
    significantOctets bits ≤ 16 := by
  rw [significantOctets]
  omega

namespace Kind

/-- The values of each kind. -/
inductive Has : Kind → Value → Prop
  | string (text : String) : Has .string (.string text)
  | integer (value : UInt32) : Has .integer (.integer value)
  | ipv4 (address : Ipv4) : Has .ipv4 (.ipv4 address)
  | ipv6 (address : Ipv6) : Has .ipv6 (.ipv6 address)
  | ipv6Prefix (address : Ipv6) {bits : UInt8} : bits.toNat ≤ 128 →
      Has .ipv6Prefix (.ipv6Prefix address bits)
  | octets (bytes : Bytes) : Has .octets (.octets bytes)
  | vendorSpecific (bytes : Bytes) : Has .vendorSpecific (.octets bytes)

/-- The address of a prefix has the octets that are written of it. -/
theorem Has.bits_le {kind : Kind} {address : Ipv6} {bits : UInt8}
    (h : kind.Has (.ipv6Prefix address bits)) :
    bits.toNat ≤ 128 ∧ Value.significantOctets bits ≤ address.octets.bytes.length := by
  cases h with
  | ipv6Prefix _ hbits =>
      rw [address.octets.length_bytes]
      exact ⟨hbits, Value.significantOctets_le hbits⟩

/-! ## Octets -/

theorem fixed_eq_ok_iff {n : Nat} {what : String} {bytes : Bytes} {exact : Octets n} :
    fixed n what bytes = .ok exact ↔ bytes = exact.bytes := by
  rw [← Octets.ofBytes?_eq_some_iff, fixed]
  cases Octets.ofBytes? n bytes <;> simp

theorem decodeText_eq_ok_iff {bytes : Bytes} {text : String} :
    decodeText bytes = .ok text ↔ bytes = Utf8.encode text := by
  rw [← Utf8.decode_eq_ok_iff, decodeText]
  cases Utf8.decode bytes <;> simp

theorem decodeInteger_eq_ok_iff {bytes : Bytes} {value : UInt32} :
    decodeInteger bytes = .ok value ↔ bytes = Value.integerBytes value := by
  simp only [decodeInteger, Except.map_eq_ok_iff, fixed_eq_ok_iff, Value.integerBytes]
  constructor
  · rintro ⟨exact, rfl, rfl⟩
    exact (Bytes.ofNat_toNat_word exact.length_bytes).symm
  · rintro rfl
    exact ⟨Octets.ofNat 4 value.toNat, rfl, Bytes.ofNat_word value⟩

theorem decodePrefix_eq_ok_iff {bytes : Bytes} {value : Value} :
    decodePrefix bytes = .ok value ↔
      ∃ reserved bits octets, bytes = reserved :: bits :: octets ∧ octets.length ≤ 16 ∧
        bits.toNat ≤ 128 ∧ value = .ipv6Prefix ⟨Octets.ofPrefix 16 octets⟩ bits := by
  constructor
  · intro h
    unfold decodePrefix at h
    split at h
    · rename_i reserved bits octets
      split at h
      · cases h
      · rename_i hlength
        split at h
        · cases h
        · rename_i hbits
          cases h
          exact ⟨reserved, bits, octets, rfl, Nat.not_lt.mp hlength, Nat.not_lt.mp hbits, rfl⟩
    · cases h
  · rintro ⟨reserved, bits, octets, rfl, hlength, hbits, rfl⟩
    simp only [decodePrefix, Nat.not_lt.mpr hlength, Nat.not_lt.mpr hbits, if_false]

/-- Of every kind but prefixes, octets are read as the value that they are the octets of. -/
theorem decode_eq_ok_iff {kind : Kind} (hkind : kind ≠ .ipv6Prefix) {bytes : Bytes}
    {value : Value} : kind.decode bytes = .ok value ↔ kind.Has value ∧ bytes = value.toBytes := by
  constructor
  · intro h
    cases kind with
    | string =>
        obtain ⟨text, htext, rfl⟩ := Except.map_eq_ok_iff.mp h
        exact ⟨.string text, decodeText_eq_ok_iff.mp htext⟩
    | integer =>
        obtain ⟨number, hnumber, rfl⟩ := Except.map_eq_ok_iff.mp h
        exact ⟨.integer number, decodeInteger_eq_ok_iff.mp hnumber⟩
    | ipv4 =>
        obtain ⟨exact, hexact, rfl⟩ := Except.map_eq_ok_iff.mp h
        exact ⟨.ipv4 ⟨exact⟩, fixed_eq_ok_iff.mp hexact⟩
    | ipv6 =>
        obtain ⟨exact, hexact, rfl⟩ := Except.map_eq_ok_iff.mp h
        exact ⟨.ipv6 ⟨exact⟩, fixed_eq_ok_iff.mp hexact⟩
    | ipv6Prefix => exact absurd rfl hkind
    | octets =>
        cases h
        exact ⟨.octets bytes, rfl⟩
    | vendorSpecific =>
        cases h
        exact ⟨.vendorSpecific bytes, rfl⟩
  · rintro ⟨hvalue, rfl⟩
    cases hvalue with
    | string text => exact Except.map_eq_ok_iff.mpr ⟨text, decodeText_eq_ok_iff.mpr rfl, rfl⟩
    | integer number =>
        exact Except.map_eq_ok_iff.mpr ⟨number, decodeInteger_eq_ok_iff.mpr rfl, rfl⟩
    | ipv4 address =>
        exact Except.map_eq_ok_iff.mpr ⟨address.octets, fixed_eq_ok_iff.mpr rfl, rfl⟩
    | ipv6 address =>
        exact Except.map_eq_ok_iff.mpr ⟨address.octets, fixed_eq_ok_iff.mpr rfl, rfl⟩
    | ipv6Prefix address _ => exact absurd rfl hkind
    | octets bytes => rfl
    | vendorSpecific bytes => rfl

theorem has_of_decode {kind : Kind} {bytes : Bytes} {value : Value}
    (h : kind.decode bytes = .ok value) : kind.Has value := by
  by_cases hkind : kind = .ipv6Prefix
  · subst hkind
    obtain ⟨_, bits, octets, -, -, hbits, rfl⟩ := decodePrefix_eq_ok_iff.mp h
    exact .ipv6Prefix _ hbits
  · exact ((decode_eq_ok_iff hkind).mp h).1

/-! ## Octets of prefixes -/

/-- Octets are the first ones of what they are filled up to. -/
theorem take_ofPrefix {octets : Bytes} {count : Nat} (hcount : count ≤ 16) :
    (Octets.ofPrefix 16 octets).bytes.take count = octets ↔ octets.length = count := by
  have htaken : ((Octets.ofPrefix 16 octets).bytes.take count).length = count := by
    rw [List.length_take, (Octets.ofPrefix 16 octets).length_bytes, Nat.min_eq_left hcount]
  constructor
  · intro h
    rw [h] at htaken
    exact htaken
  · rintro rfl
    simp only [Octets.ofPrefix, Bytes.padTo, List.take_take, Nat.min_eq_left hcount,
      List.take_left]

/-- The octets of a prefix are those it was read from if these are in order and all counted. -/
theorem toBytes_eq_iff_of_decodePrefix {bytes : Bytes} {value : Value}
    (h : decodePrefix bytes = .ok value) :
    value.toBytes = bytes ↔
      ∃ bits address, bytes = 0 :: bits :: address ∧ address.length = (bits.toNat + 7) / 8 := by
  obtain ⟨reserved, bits, octets, rfl, -, hbits, rfl⟩ := decodePrefix_eq_ok_iff.mp h
  rw [Value.toBytes, List.cons.injEq, List.cons.injEq,
    take_ofPrefix (Value.significantOctets_le hbits)]
  constructor
  · rintro ⟨rfl, -, hlength⟩
    exact ⟨bits, octets, rfl, hlength⟩
  · rintro ⟨_, _, heq, hlength⟩
    cases heq
    exact ⟨rfl, rfl, hlength⟩

/-- The octets of every value are read, as a value that has the same ones. -/
theorem Has.decode_toBytes {kind : Kind} {value : Value} (h : kind.Has value) :
    ∃ again, kind.decode value.toBytes = .ok again ∧ again.toBytes = value.toBytes := by
  by_cases hkind : kind = .ipv6Prefix
  · subst hkind
    cases h with
    | @ipv6Prefix address bits hbits =>
        have hcount := Value.significantOctets_le hbits
        have hlength : (address.octets.bytes.take (Value.significantOctets bits)).length =
            Value.significantOctets bits := by
          rw [List.length_take, address.octets.length_bytes, Nat.min_eq_left hcount]
        have hread : decodePrefix (Value.ipv6Prefix address bits).toBytes = .ok _ :=
          decodePrefix_eq_ok_iff.mpr ⟨0, bits, _, rfl, hlength.trans_le hcount, hbits, rfl⟩
        exact ⟨_, hread, (toBytes_eq_iff_of_decodePrefix hread).mpr ⟨bits, _, rfl, hlength⟩⟩
  · exact ⟨value, (decode_eq_ok_iff hkind).mpr ⟨h, rfl⟩, rfl⟩

/-! ## Text -/

theorem readable_eq_ok_iff {α : Type} {what text : String} {read : Option α} {a : α} :
    readable what text read = .ok a ↔ read = some a := by
  cases read <;> simp [readable]

theorem parsePrefix?_toText {bits : UInt8} (h : bits.toNat ≤ 128) (address : Ipv6) :
    parsePrefix? (Value.ipv6Prefix address bits).toText = some (.ipv6Prefix address bits) := by
  have hchars : (Value.ipv6Prefix address bits).toText.toList =
      address.chars ++ '/' :: (toString bits.toNat).toList := by
    simp [Value.toText, Ipv6.toText, toString]
  have hbefore : ∀ c ∈ address.chars, decide (c ≠ '/') := fun c hc =>
    decide_eq_true fun hslash => address.slash_not_mem_chars (hslash ▸ hc)
  have haddress : (address.chars ++ '/' :: (toString bits.toNat).toList).takeWhile (· ≠ '/') =
      address.chars := by
    rw [List.takeWhile_append_of_pos hbefore]
    simp
  have hsize : (address.chars ++ '/' :: (toString bits.toNat).toList).dropWhile (· ≠ '/') =
      '/' :: (toString bits.toNat).toList := by
    rw [List.dropWhile_append_of_pos hbefore]
    simp
  have hread := address.parse?_toText
  rw [Ipv6.toText] at hread
  simp only [parsePrefix?, hchars, haddress, hsize, String.ofList_toList,
    Decimal.parseUInt8_toString, Nat.not_lt.mpr h, if_false, hread, Option.map_some]

theorem has_of_parsePrefix? {text : String} {value : Value} (h : parsePrefix? text = some value) :
    Has .ipv6Prefix value := by
  simp only [parsePrefix?] at h
  split at h
  · cases h
  · split at h
    · split at h
      · cases h
      · rename_i hbits
        obtain ⟨address, -, rfl⟩ := Option.map_eq_some_iff.mp h
        exact .ipv6Prefix address (Nat.not_lt.mp hbits)
    · cases h

/-- The text of a value is read as the value. -/
theorem Has.parseValue_toText {kind : Kind} {value : Value} (h : kind.Has value) :
    kind.parseValue value.toText = .ok value := by
  cases h with
  | string text => rfl
  | integer number =>
      refine readable_eq_ok_iff.mpr ?_
      rw [Value.toText, Decimal.parseUInt32_toString]
      rfl
  | ipv4 address => exact readable_eq_ok_iff.mpr (congrArg (Option.map _) address.parse?_toText)
  | ipv6 address => exact readable_eq_ok_iff.mpr (congrArg (Option.map _) address.parse?_toText)
  | ipv6Prefix address hbits => exact readable_eq_ok_iff.mpr (parsePrefix?_toText hbits address)
  | octets bytes =>
      exact readable_eq_ok_iff.mpr (congrArg (Option.map _) (Hex.decode?_encode bytes))
  | vendorSpecific bytes =>
      exact readable_eq_ok_iff.mpr (congrArg (Option.map _) (Hex.decode?_encode bytes))

theorem has_of_parseValue {kind : Kind} {text : String} {value : Value}
    (h : kind.parseValue text = .ok value) : kind.Has value := by
  cases kind with
  | string =>
      cases h
      exact .string text
  | integer =>
      obtain ⟨number, -, rfl⟩ := Option.map_eq_some_iff.mp (readable_eq_ok_iff.mp h)
      exact .integer number
  | ipv4 =>
      obtain ⟨address, -, rfl⟩ := Option.map_eq_some_iff.mp (readable_eq_ok_iff.mp h)
      exact .ipv4 address
  | ipv6 =>
      obtain ⟨address, -, rfl⟩ := Option.map_eq_some_iff.mp (readable_eq_ok_iff.mp h)
      exact .ipv6 address
  | ipv6Prefix => exact has_of_parsePrefix? (readable_eq_ok_iff.mp h)
  | octets =>
      obtain ⟨bytes, -, rfl⟩ := Option.map_eq_some_iff.mp (readable_eq_ok_iff.mp h)
      exact .octets bytes
  | vendorSpecific =>
      obtain ⟨bytes, -, rfl⟩ := Option.map_eq_some_iff.mp (readable_eq_ok_iff.mp h)
      exact .vendorSpecific bytes

/-! ## Agreement -/

/-- What is read from octets has a text that is read as its octets, and they are read in turn. They
are the octets that it was read from, except that a prefix begins with a zero and has as many
octets as its bits need. What is read from text has octets that are read as well. A prefix that is
read counts at most 128 bits, so its address has the octets that are written. -/
theorem forms_agree (kind : Kind) :
    (∀ bytes value, kind.decode bytes = .ok value →
      kind.parse value.toText = .ok value.toBytes ∧
      (∃ again, kind.decode value.toBytes = .ok again ∧ again.toBytes = value.toBytes) ∧
      (kind ≠ .ipv6Prefix → value.toBytes = bytes) ∧
      (kind = .ipv6Prefix → (value.toBytes = bytes ↔
        ∃ bits address, bytes = 0 :: bits :: address ∧
          address.length = (bits.toNat + 7) / 8))) ∧
    (∀ text bytes, kind.parse text = .ok bytes →
      ∃ value, kind.decode bytes = .ok value ∧ value.toBytes = bytes) ∧
    ∀ address bits,
      ((∃ bytes, kind.decode bytes = .ok (.ipv6Prefix address bits)) ∨
        ∃ text, kind.parseValue text = .ok (.ipv6Prefix address bits)) →
      bits.toNat ≤ 128 ∧ Value.significantOctets bits ≤ address.octets.bytes.length := by
  refine ⟨fun bytes value hdecoded => ⟨?_, ?_, fun hkind => ?_, ?_⟩, fun text bytes hparsed => ?_,
    fun address bits hread => ?_⟩
  · rw [parse, (has_of_decode hdecoded).parseValue_toText]
    rfl
  · exact (has_of_decode hdecoded).decode_toBytes
  · exact ((decode_eq_ok_iff hkind).mp hdecoded).2.symm
  · rintro rfl
    exact toBytes_eq_iff_of_decodePrefix hdecoded
  · obtain ⟨value, hvalue, rfl⟩ := Except.map_eq_ok_iff.mp hparsed
    exact (has_of_parseValue hvalue).decode_toBytes
  · rcases hread with ⟨bytes, hdecoded⟩ | ⟨text, hparsed⟩
    · exact (has_of_decode hdecoded).bits_le
    · exact (has_of_parseValue hparsed).bits_le

/-! ## Sample values -/

namespace Sample

/-- A prefix with a reserved octet that is not zero, and one octet more than its bits need. -/
def loose : Bytes := [1, 60, 0x20, 0x01, 0x0d, 0xb8, 0, 0, 0, 0x12, 0x34]

def network : Value :=
  .ipv6Prefix
    ⟨⟨[0x20, 0x01, 0x0d, 0xb8, 0, 0, 0, 0x12, 0x34, 0, 0, 0, 0, 0, 0, 0], rfl⟩⟩ 60

/-- The same prefix without what is not needed. -/
def tight : Bytes := [0, 60, 0x20, 0x01, 0x0d, 0xb8, 0, 0, 0, 0x12]

end Sample

theorem sample_forms_agree :
    (ipv6Prefix.decode Sample.loose = .ok Sample.network ∧
      Sample.network.toText = "2001:db8:0:12:3400::/60" ∧
      ipv6Prefix.parse "2001:db8:0:12:3400::/60" = .ok Sample.tight ∧
      (∃ again, ipv6Prefix.decode Sample.tight = .ok again ∧ again.toBytes = Sample.tight) ∧
      Sample.network.toBytes ≠ Sample.loose) ∧
    (octets.parse "0xDEad" = .ok [0xde, 0xad] ∧
      ∃ value, octets.decode [0xde, 0xad] = .ok value ∧ value.toBytes = [0xde, 0xad]) ∧
    ipv4.decode [10, 0, 0, 1] = .ok (.ipv4 ⟨⟨[10, 0, 0, 1], rfl⟩⟩) ∧
      ipv4.parse (Value.ipv4 ⟨⟨[10, 0, 0, 1], rfl⟩⟩).toText = .ok [10, 0, 0, 1] := by
  have hdecoded : ipv6Prefix.decode Sample.loose = .ok Sample.network := by decide +kernel
  have htext : Sample.network.toText = "2001:db8:0:12:3400::/60" := by decide +kernel
  have hparsed : octets.parse "0xDEad" = .ok [0xde, 0xad] := by decide +kernel
  have hipv4 : ipv4.decode [10, 0, 0, 1] = .ok (.ipv4 ⟨⟨[10, 0, 0, 1], rfl⟩⟩) := by decide +kernel
  obtain ⟨hnetwork, -, -⟩ := forms_agree ipv6Prefix
  obtain ⟨-, hoctets, -⟩ := forms_agree octets
  obtain ⟨haddress, -, -⟩ := forms_agree ipv4
  refine ⟨⟨hdecoded, htext, ?_⟩, ⟨hparsed, hoctets _ _ hparsed⟩, hipv4, (haddress _ _ hipv4).1⟩
  obtain ⟨hread, hagain, -, hexact⟩ := hnetwork _ _ hdecoded
  rw [htext] at hread
  refine ⟨hread, hagain, fun h => ?_⟩
  obtain ⟨_, _, hloose, -⟩ := (hexact rfl).mp h
  cases hloose

end Kind
end Radius
