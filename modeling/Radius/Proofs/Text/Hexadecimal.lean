-- SUMMARY: Which texts write octets: pairs of hexadecimal digits, and besides them pairs of a plus sign and a digit.
import Radius.Proofs.Text.Digits
import Radius.Proofs.Value.Forms

/-!
# Hexadecimal text of octets

A text of octets, its mark taken off, is read in pairs, and each pair as a number of its own. A
number may have a sign, so besides two digits a plus sign and one digit are a pair. A text without
a plus sign is therefore read exactly if it is an even number of digits; one with a plus sign
never is, and yet some of them are read.
-/

namespace Radius

namespace Hex

/-! ## Digits and pairs -/

/-- A character that is a hexadecimal digit, of either case, and its value. -/
def IsDigit (c : Char) (value : Nat) : Prop :=
  value < 16 ∧ (c = value.digitChar ∨ c = value.digitChar.toUpper)

theorem IsDigit.ne_plus {c : Char} {value : Nat} (h : IsDigit c value) : c ≠ '+' := by
  obtain ⟨hvalue, hc⟩ := h
  have hall : ∀ value < 16, value.digitChar ≠ '+' ∧ value.digitChar.toUpper ≠ '+' := by decide
  rcases hc with rfl | rfl
  · exact (hall value hvalue).1
  · exact (hall value hvalue).2

/-- A character in a range stands behind its first character by as much as its digit counts. -/
theorem eq_ofNat_of_le {first c : Char} (h : first ≤ c) :
    c = Char.ofNat (first.toNat + (c.toNat - first.toNat)) := by
  have hle : first.toNat ≤ c.toNat := h
  rw [Nat.add_sub_cancel' hle, Char.ofNat_toNat]

theorem digit?_eq_some_iff {c : Char} {value : Nat} : digit? c = some value ↔ IsDigit c value := by
  constructor
  · have hdecimal : ∀ digit < 10, Char.ofNat ('0'.toNat + digit) = digit.digitChar := by decide
    have hlower : ∀ digit < 6, Char.ofNat ('a'.toNat + digit) = (digit + 10).digitChar := by decide
    have hupper : ∀ digit < 6,
        Char.ofNat ('A'.toNat + digit) = (digit + 10).digitChar.toUpper := by decide
    intro h
    unfold digit? at h
    split at h
    · rename_i hrange
      cases h
      have hlt : c.toNat - '0'.toNat < 10 := by
        have hle : c.toNat ≤ '9'.toNat := hrange.2
        simp only [Char.reduceToNat] at hle ⊢
        omega
      exact ⟨by omega, .inl ((eq_ofNat_of_le hrange.1).trans (hdecimal _ hlt))⟩
    split at h
    · rename_i hrange
      cases h
      have hlt : c.toNat - 'a'.toNat < 6 := by
        have hle : c.toNat ≤ 'f'.toNat := hrange.2
        simp only [Char.reduceToNat] at hle ⊢
        omega
      exact ⟨by omega, .inl ((eq_ofNat_of_le hrange.1).trans (hlower _ hlt))⟩
    split at h
    · rename_i hrange
      cases h
      have hlt : c.toNat - 'A'.toNat < 6 := by
        have hle : c.toNat ≤ 'F'.toNat := hrange.2
        simp only [Char.reduceToNat] at hle ⊢
        omega
      exact ⟨by omega, .inr ((eq_ofNat_of_le hrange.1).trans (hupper _ hlt))⟩
    · cases h
  · have hread : ∀ digit < 16, digit? digit.digitChar = some digit ∧
        digit? digit.digitChar.toUpper = some digit := by decide
    rintro ⟨hvalue, rfl | rfl⟩
    · exact (hread value hvalue).1
    · exact (hread value hvalue).2

/-- Two digits and the octet that they denote. -/
inductive TwoDigits : (first second : Char) → UInt8 → Prop
  | digits {first second : Char} {high low : Nat} : IsDigit first high → IsDigit second low →
      TwoDigits first second (UInt8.ofNat (high * 16 + low))

/-- A plus sign, a digit, and the octet that the digit denotes. -/
inductive PlusDigit : (first second : Char) → UInt8 → Prop
  | digit {second : Char} {low : Nat} : IsDigit second low →
      PlusDigit '+' second (UInt8.ofNat low)

theorem pair?_eq_some_iff {first second : Char} {octet : UInt8} :
    pair? first second = some octet ↔
      TwoDigits first second octet ∨ PlusDigit first second octet := by
  unfold pair?
  split
  · rename_i hplus
    subst hplus
    rw [Option.map_eq_some_iff]
    constructor
    · rintro ⟨low, hlow, rfl⟩
      exact .inr (.digit (digit?_eq_some_iff.mp hlow))
    · rintro (⟨hhigh, -⟩ | hsigned)
      · exact absurd rfl hhigh.ne_plus
      · cases hsigned with
        | digit hlow => exact ⟨_, digit?_eq_some_iff.mpr hlow, rfl⟩
  · rename_i hplus
    constructor
    · intro h
      split at h
      · rename_i high low hhigh hlow
        cases h
        exact .inl (.digits (digit?_eq_some_iff.mp hhigh) (digit?_eq_some_iff.mp hlow))
      · cases h
    · rintro (⟨hhigh, hlow⟩ | hsigned)
      · rw [digit?_eq_some_iff.mpr hhigh, digit?_eq_some_iff.mpr hlow]
      · cases hsigned
        exact absurd rfl hplus

/-! ## Texts of pairs -/

/-- A text that is pairs, each of which denotes the next of the octets. -/
inductive Pairs (denotes : Char → Char → UInt8 → Prop) : List Char → Bytes → Prop
  | nil : Pairs denotes [] []
  | cons {first second : Char} {octet : UInt8} {text : List Char} {bytes : Bytes} :
      denotes first second octet → Pairs denotes text bytes →
      Pairs denotes (first :: second :: text) (octet :: bytes)

theorem Pairs.mono {denotes denotes' : Char → Char → UInt8 → Prop}
    (hmono : ∀ first second octet, denotes first second octet → denotes' first second octet)
    {text : List Char} {bytes : Bytes} (h : Pairs denotes text bytes) : Pairs denotes' text bytes := by
  induction h with
  | nil => exact .nil
  | cons hpair _ ih => exact .cons (hmono _ _ _ hpair) ih

/-- A text of digits has no plus sign. -/
theorem Pairs.plus_not_mem {text : List Char} {bytes : Bytes} (h : Pairs TwoDigits text bytes) :
    '+' ∉ text := by
  induction h with
  | nil => exact List.not_mem_nil
  | cons hpair _ ih =>
      obtain ⟨hfirst, hsecond⟩ := hpair
      simp only [List.mem_cons, not_or]
      exact ⟨hfirst.ne_plus.symm, hsecond.ne_plus.symm, ih⟩

/-- Without a plus sign all pairs are of digits. -/
theorem Pairs.digits_of_plus_not_mem {text : List Char} {bytes : Bytes}
    (h : Pairs (fun first second octet =>
      TwoDigits first second octet ∨ PlusDigit first second octet) text bytes)
    (hplus : '+' ∉ text) : Pairs TwoDigits text bytes := by
  induction h with
  | nil => exact .nil
  | cons hpair _ ih =>
      simp only [List.mem_cons, not_or] at hplus
      rcases hpair with hdigits | hsigned
      · exact .cons hdigits (ih hplus.2.2)
      · cases hsigned
        exact absurd rfl hplus.1

theorem pairs?_eq_some_iff {text : List Char} {bytes : Bytes} :
    pairs? text = some bytes ↔ Pairs (fun first second octet =>
      TwoDigits first second octet ∨ PlusDigit first second octet) text bytes := by
  constructor
  · intro h
    fun_induction pairs? text generalizing bytes with
    | case1 =>
        cases h
        exact .nil
    | case2 => cases h
    | case3 first second rest octet octets hpairs hpair ih =>
        cases h
        exact .cons (pair?_eq_some_iff.mp hpair) (ih hpairs)
    | case4 => cases h
  · intro h
    induction h with
    | nil => rfl
    | cons hpair _ ih => rw [pairs?, pair?_eq_some_iff.mpr hpair, ih]

end Hex

/-! ## Octets that are read from text -/

namespace Kind

theorem parse_octets_eq_ok_iff {text : String} {bytes : Bytes} :
    Kind.octets.parse text = .ok bytes ↔ Hex.decode? text = some bytes := by
  rw [parse, parseValue, Except.map_eq_ok_iff]
  simp only [readable_eq_ok_iff, Option.map_eq_some_iff]
  constructor
  · rintro ⟨_, ⟨octets, hoctets, rfl⟩, rfl⟩
    exact hoctets
  · intro h
    exact ⟨_, ⟨bytes, h, rfl⟩, rfl⟩

/-- A text that is not read is reported as it stands. -/
theorem parse_octets_of_none {text : String} (h : Hex.decode? text = none) :
    Kind.octets.parse text = .error (.invalidValue (.unreadable "hex value" text)) := by
  rw [parse, parseValue, h]
  rfl

/-- Which texts write octets, and which. A text is read exactly if it is pairs, behind at most one
mark, of two hexadecimal digits or of a plus sign and one digit, and then as the octets that the
pairs denote; any other text is an invalid value. So a text is read if and only if it is pairs of
digits, except where it has a plus sign and is read nevertheless. -/
theorem octets_are_read_in_pairs (text : String) :
    (∀ bytes, Kind.octets.parse text = .ok bytes ↔
      Hex.Pairs (fun first second octet =>
        Hex.TwoDigits first second octet ∨ Hex.PlusDigit first second octet)
        (Hex.dropMark text.toList) bytes) ∧
    ((∀ bytes, Kind.octets.parse text ≠ .ok bytes) →
      Kind.octets.parse text = .error (.invalidValue (.unreadable "hex value" text))) ∧
    ((∀ bytes, Kind.octets.parse text = .ok bytes ↔
        Hex.Pairs Hex.TwoDigits (Hex.dropMark text.toList) bytes) ↔
      ¬ ('+' ∈ Hex.dropMark text.toList ∧ ∃ bytes, Kind.octets.parse text = .ok bytes)) := by
  have hpairs : ∀ bytes, Kind.octets.parse text = .ok bytes ↔
      Hex.Pairs (fun first second octet =>
        Hex.TwoDigits first second octet ∨ Hex.PlusDigit first second octet)
        (Hex.dropMark text.toList) bytes :=
    fun bytes => parse_octets_eq_ok_iff.trans Hex.pairs?_eq_some_iff
  refine ⟨hpairs, fun hnone => parse_octets_of_none ?_, ?_⟩
  · cases hdecoded : Hex.decode? text with
    | none => rfl
    | some bytes => exact absurd (parse_octets_eq_ok_iff.mpr hdecoded) (hnone bytes)
  constructor
  · rintro hdigits ⟨hplus, bytes, hread⟩
    exact ((hdigits bytes).mp hread).plus_not_mem hplus
  · intro hno bytes
    constructor
    · intro hread
      have hplus : '+' ∉ Hex.dropMark text.toList := fun hplus => hno ⟨hplus, bytes, hread⟩
      exact ((hpairs bytes).mp hread).digits_of_plus_not_mem hplus
    · exact fun hdigits => (hpairs bytes).mpr (hdigits.mono fun _ _ _ htwo => .inl htwo)

/-- A text that is no pair of digits is read. -/
theorem sample_plus_is_read :
    Kind.octets.parse "+f" = .ok [15] ∧
      ∀ bytes, ¬ Hex.Pairs Hex.TwoDigits (Hex.dropMark "+f".toList) bytes := by
  refine ⟨by decide +kernel, fun bytes hdigits => ?_⟩
  exact hdigits.plus_not_mem (by decide +kernel)

end Kind
end Radius
