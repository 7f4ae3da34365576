-- SUMMARY: Octets are read as a text exactly when they are what the text is written as.
import Mathlib.Data.List.Basic
import Radius.Proofs.Outcome
import Radius.Text.Utf8

/-!
# The UTF-8 codec

A character is read from the octets that it is written as, whatever follows them, and from
no others: overlong forms and surrogates are ruled out by the range of the octet behind
the leading one. So strict reading accepts exactly what writing produces.
-/

namespace Radius.Utf8

/-! ## Continuation octets -/

theorem toNat_octet {n : Nat} (h : n < 0x100) : (UInt8.ofNat n).toNat = n :=
  UInt8.toNat_ofNat_of_lt' h

theorem ofNat_eq_iff {n : Nat} {octet : UInt8} (h : n < 0x100) :
    UInt8.ofNat n = octet ↔ n = octet.toNat := by
  rw [← UInt8.toNat_inj, toNat_octet h]

theorem continuation_zero (low high bits read : Nat) (rest : Bytes) :
    continuation low high bits read 0 rest = .char (Char.ofNat bits) rest := rfl

/-- An octet that is owed continues the character if it is in range. -/
theorem continuation_succ_eq_char_iff {low high bits read owed : Nat} {bytes rest : Bytes} {c : Char} :
    continuation low high bits read (owed + 1) bytes = .char c rest ↔
      ∃ octet later, bytes = octet :: later ∧ (low ≤ octet.toNat ∧ octet.toNat ≤ high) ∧
        continuation 0x80 0xBF (bits * 0x40 + (octet.toNat - 0x80)) (read + 1) owed later =
          .char c rest := by
  cases bytes with
  | nil => simp [continuation]
  | cons octet later =>
      rw [continuation]
      split
      · rename_i hrange
        simp [hrange]
      · rename_i hrange
        simp only [reduceCtorEq, List.cons.injEq, false_iff]
        rintro ⟨octet', later', ⟨rfl, rfl⟩, hinside, -⟩
        exact hrange hinside

/-! ## One character -/

/-- A character is read from the octets that it is written as. -/
theorem next_encodeChar (c : Char) (rest : Bytes) :
    ∃ octet later, encodeChar c = octet :: later ∧ next octet (later ++ rest) = .char c rest := by
  have hvalid : c.toNat < 0xD800 ∨ 0xDFFF < c.toNat ∧ c.toNat < 0x110000 := c.valid
  have hback := Char.ofNat_toNat c
  generalize hn : c.toNat = n at hvalid hback
  unfold encodeChar
  simp only [hn]
  split
  · rename_i hone
    refine ⟨_, _, rfl, ?_⟩
    simp only [next, Lead.ofOctet?, toNat_octet (by omega : n < 0x100), hone, if_true]
    rw [List.nil_append, continuation_zero, hback]
  split
  · rename_i htwo
    refine ⟨_, _, rfl, ?_⟩
    have hlead : (UInt8.ofNat (0xC0 + n / 0x40)).toNat = 0xC0 + n / 0x40 := toNat_octet (by omega)
    have hoctet : (UInt8.ofNat (0x80 + n % 0x40)).toNat = 0x80 + n % 0x40 := toNat_octet (by omega)
    simp only [next, Lead.ofOctet?, hlead]
    rw [if_neg (by omega), if_neg (by omega), if_pos (by omega)]
    simp only [continuation_succ_eq_char_iff, continuation_zero]
    refine ⟨_, _, rfl, by omega, ?_⟩
    have hbits : (0xC0 + n / 0x40 - 0xC0) * 0x40 + (0x80 + n % 0x40 - 0x80) = n := by omega
    rw [hoctet, hbits, hback]
    rfl
  have hlast : (UInt8.ofNat (0x80 + n % 0x40)).toNat = 0x80 + n % 0x40 := toNat_octet (by omega)
  have hmiddle : (UInt8.ofNat (0x80 + n / 0x40 % 0x40)).toNat = 0x80 + n / 0x40 % 0x40 :=
    toNat_octet (by omega)
  split
  · rename_i hthree
    refine ⟨_, _, rfl, ?_⟩
    have hlead : (UInt8.ofNat (0xE0 + n / 0x1000)).toNat = 0xE0 + n / 0x1000 :=
      toNat_octet (by omega)
    simp only [next, Lead.ofOctet?, hlead]
    rw [if_neg (by omega), if_neg (by omega), if_neg (by omega), if_pos (by omega)]
    simp only [continuation_succ_eq_char_iff, continuation_zero]
    -- The range of the second octet leaves out what two octets hold, and the surrogates.
    refine ⟨_, _, rfl, by split <;> split <;> omega, _, _, rfl, by omega, ?_⟩
    have hbits : ((0xE0 + n / 0x1000 - 0xE0) * 0x40 + (0x80 + n / 0x40 % 0x40 - 0x80)) * 0x40 +
        (0x80 + n % 0x40 - 0x80) = n := by omega
    rw [hmiddle, hlast, hbits, hback]
    rfl
  · refine ⟨_, _, rfl, ?_⟩
    have hlead : (UInt8.ofNat (0xF0 + n / 0x40000)).toNat = 0xF0 + n / 0x40000 :=
      toNat_octet (by omega)
    have hsecond : (UInt8.ofNat (0x80 + n / 0x1000 % 0x40)).toNat = 0x80 + n / 0x1000 % 0x40 :=
      toNat_octet (by omega)
    simp only [next, Lead.ofOctet?, hlead]
    rw [if_neg (by omega), if_neg (by omega), if_neg (by omega), if_neg (by omega),
      if_pos (by omega)]
    simp only [continuation_succ_eq_char_iff, continuation_zero]
    -- The range of the second octet leaves out what three octets hold, and what is too large.
    refine ⟨_, _, rfl, by split <;> split <;> omega, _, _, rfl, by omega, _, _, rfl, by omega, ?_⟩
    have hbits : (((0xF0 + n / 0x40000 - 0xF0) * 0x40 + (0x80 + n / 0x1000 % 0x40 - 0x80)) * 0x40 +
        (0x80 + n / 0x40 % 0x40 - 0x80)) * 0x40 + (0x80 + n % 0x40 - 0x80) = n := by omega
    rw [hsecond, hmiddle, hlast, hbits, hback]
    rfl

/-- A number that is a character's is the number of that character. -/
theorem toNat_of_char_eq {n : Nat} {c : Char} {rest later : Bytes}
    (h : Step.char (Char.ofNat n) rest = .char c later)
    (hvalid : n < 0xD800 ∨ 0xDFFF < n ∧ n < 0x110000) : c.toNat = n ∧ later = rest := by
  cases h
  have hchar : n.isValidChar := hvalid
  rw [Char.ofNat, dif_pos hchar]
  exact ⟨rfl, rfl⟩

section

variable {c : Char} {first second third fourth : UInt8}

theorem encodeChar_of_one (hn : c.toNat = first.toNat) (hfirst : first.toNat < 0x80) :
    encodeChar c = [first] := by
  unfold encodeChar
  dsimp only
  rw [hn, if_pos hfirst, (ofNat_eq_iff first.toNat_lt).mpr rfl]

theorem encodeChar_of_two
    (hn : c.toNat = (first.toNat - 0xC0) * 0x40 + (second.toNat - 0x80))
    (hfirst : 0xC2 ≤ first.toNat ∧ first.toNat < 0xE0)
    (hsecond : 0x80 ≤ second.toNat ∧ second.toNat ≤ 0xBF) : encodeChar c = [first, second] := by
  unfold encodeChar
  dsimp only
  generalize c.toNat = n at hn ⊢
  have hlead : UInt8.ofNat (0xC0 + n / 0x40) = first := (ofNat_eq_iff (by omega)).mpr (by omega)
  have hlast : UInt8.ofNat (0x80 + n % 0x40) = second := (ofNat_eq_iff (by omega)).mpr (by omega)
  rw [if_neg (by omega), if_pos (by omega), hlead, hlast]

theorem encodeChar_of_three
    (hn : c.toNat = ((first.toNat - 0xE0) * 0x40 + (second.toNat - 0x80)) * 0x40 +
      (third.toNat - 0x80))
    (hfirst : 0xE0 ≤ first.toNat ∧ first.toNat < 0xF0)
    (hsecond : 0x80 ≤ second.toNat ∧ second.toNat ≤ 0xBF)
    (hlong : first.toNat = 0xE0 → 0xA0 ≤ second.toNat)
    (hthird : 0x80 ≤ third.toNat ∧ third.toNat ≤ 0xBF) : encodeChar c = [first, second, third] := by
  unfold encodeChar
  dsimp only
  generalize c.toNat = n at hn ⊢
  have hlead : UInt8.ofNat (0xE0 + n / 0x1000) = first := (ofNat_eq_iff (by omega)).mpr (by omega)
  have hmiddle : UInt8.ofNat (0x80 + n / 0x40 % 0x40) = second :=
    (ofNat_eq_iff (by omega)).mpr (by omega)
  have hlast : UInt8.ofNat (0x80 + n % 0x40) = third := (ofNat_eq_iff (by omega)).mpr (by omega)
  rw [if_neg (by omega), if_neg (by omega), if_pos (by omega), hlead, hmiddle, hlast]

theorem encodeChar_of_four
    (hn : c.toNat = (((first.toNat - 0xF0) * 0x40 + (second.toNat - 0x80)) * 0x40 +
      (third.toNat - 0x80)) * 0x40 + (fourth.toNat - 0x80))
    (hfirst : 0xF0 ≤ first.toNat ∧ first.toNat < 0xF5)
    (hsecond : 0x80 ≤ second.toNat ∧ second.toNat ≤ 0xBF)
    (hlong : first.toNat = 0xF0 → 0x90 ≤ second.toNat)
    (hthird : 0x80 ≤ third.toNat ∧ third.toNat ≤ 0xBF)
    (hfourth : 0x80 ≤ fourth.toNat ∧ fourth.toNat ≤ 0xBF) :
    encodeChar c = [first, second, third, fourth] := by
  unfold encodeChar
  dsimp only
  generalize c.toNat = n at hn ⊢
  have hlead : UInt8.ofNat (0xF0 + n / 0x40000) = first :=
    (ofNat_eq_iff (by omega)).mpr (by omega)
  have hnext : UInt8.ofNat (0x80 + n / 0x1000 % 0x40) = second :=
    (ofNat_eq_iff (by omega)).mpr (by omega)
  have hmiddle : UInt8.ofNat (0x80 + n / 0x40 % 0x40) = third :=
    (ofNat_eq_iff (by omega)).mpr (by omega)
  have hlast : UInt8.ofNat (0x80 + n % 0x40) = fourth := (ofNat_eq_iff (by omega)).mpr (by omega)
  rw [if_neg (by omega), if_neg (by omega), if_neg (by omega), hlead, hnext, hmiddle, hlast]

end

/-- No other octets are read as a character. -/
theorem eq_encodeChar_of_next {octet : UInt8} {bytes rest : Bytes} {c : Char}
    (h : next octet bytes = .char c rest) : octet :: bytes = encodeChar c ++ rest := by
  simp only [next, Lead.ofOctet?] at h
  split at h
  · cases h
  rename_i lead hlead
  split at hlead
  · rename_i hone
    cases hlead
    obtain ⟨hn, rfl⟩ := toNat_of_char_eq h (by dsimp only; omega)
    rw [encodeChar_of_one hn hone]
    rfl
  split at hlead
  · cases hlead
  rename_i hlow
  split at hlead
  · rename_i htwo
    cases hlead
    simp only [continuation_succ_eq_char_iff, continuation_zero] at h
    obtain ⟨second, later, rfl, hsecond, hchar⟩ := h
    obtain ⟨hn, rfl⟩ := toNat_of_char_eq hchar (by omega)
    rw [encodeChar_of_two hn ⟨by omega, htwo⟩ hsecond]
    rfl
  split at hlead
  · rename_i hthree
    cases hlead
    simp only [continuation_succ_eq_char_iff, continuation_zero] at h
    obtain ⟨second, later, rfl, hsecond, third, later', rfl, hthird, hchar⟩ := h
    have hrange : (octet.toNat = 0xE0 → 0xA0 ≤ second.toNat) ∧
        (octet.toNat = 0xED → second.toNat ≤ 0x9F) ∧ 0x80 ≤ second.toNat ∧
        second.toNat ≤ 0xBF := by
      split at hsecond <;> split at hsecond <;> omega
    obtain ⟨hn, rfl⟩ := toNat_of_char_eq hchar (by omega)
    rw [encodeChar_of_three hn ⟨by omega, hthree⟩ hrange.2.2 hrange.1 hthird]
    rfl
  split at hlead
  · rename_i hfour
    cases hlead
    simp only [continuation_succ_eq_char_iff, continuation_zero] at h
    obtain ⟨second, later, rfl, hsecond, third, later', rfl, hthird, fourth, later'', rfl, hfourth,
      hchar⟩ := h
    have hrange : (octet.toNat = 0xF0 → 0x90 ≤ second.toNat) ∧
        (octet.toNat = 0xF4 → second.toNat ≤ 0x8F) ∧ 0x80 ≤ second.toNat ∧
        second.toNat ≤ 0xBF := by
      split at hsecond <;> split at hsecond <;> omega
    obtain ⟨hn, rfl⟩ := toNat_of_char_eq hchar (by omega)
    rw [encodeChar_of_four hn ⟨by omega, hfour⟩ hrange.2.2 hrange.1 hthird hfourth]
    rfl
  · cases hlead

/-! ## Whole texts -/

@[simp] theorem decodeFrom_nil (index : Nat) : decodeFrom index [] = .ok [] := by
  rw [decodeFrom]

/-- The first character is read before the others. -/
theorem decodeFrom_cons_eq_ok_iff {index : Nat} {octet : UInt8} {bytes : Bytes} {chars : List Char} :
    decodeFrom index (octet :: bytes) = .ok chars ↔
      ∃ c rest later, next octet bytes = .char c rest ∧
        decodeFrom (index + (encodeChar c).length) rest = .ok later ∧ chars = c :: later := by
  rw [decodeFrom]
  split
  · rename_i c rest hnext
    split
    · rename_i later hlater
      simp [hnext, hlater, eq_comm]
    · rename_i fault hfault
      simp [hnext, hfault]
  · rename_i hnext
    simp [hnext]
  · rename_i hnext
    simp [hnext]

theorem decodeFrom_encode (index : Nat) (chars : List Char) :
    decodeFrom index (chars.flatMap encodeChar) = .ok chars := by
  induction chars generalizing index with
  | nil => exact decodeFrom_nil index
  | cons c chars ih =>
      obtain ⟨octet, later, hoctets, hnext⟩ := next_encodeChar c (chars.flatMap encodeChar)
      rw [List.flatMap_cons, hoctets, List.cons_append, decodeFrom_cons_eq_ok_iff]
      exact ⟨c, _, chars, hnext, ih _, rfl⟩

/-- Reading with replacements has nothing to replace in what a text is written as. -/
theorem lossyChars_encode (text : String) : lossyChars (encode text) = text.toList := by
  unfold encode
  induction text.toList with
  | nil => rw [List.flatMap_nil, lossyChars]
  | cons c chars ih =>
      obtain ⟨octet, later, hoctets, hnext⟩ := next_encodeChar c (chars.flatMap encodeChar)
      rw [List.flatMap_cons, hoctets, List.cons_append, lossyChars]
      split
      · rename_i c' rest hnext'
        rw [hnext] at hnext'
        cases hnext'
        rw [ih]
      · rename_i hnext'
        rw [hnext] at hnext'
        cases hnext'
      · rename_i hnext'
        rw [hnext] at hnext'
        cases hnext'

theorem eq_encode_of_decodeFrom {index : Nat} {bytes : Bytes} {chars : List Char}
    (h : decodeFrom index bytes = .ok chars) : bytes = chars.flatMap encodeChar := by
  induction chars generalizing index bytes with
  | nil =>
      cases bytes with
      | nil => rfl
      | cons octet bytes =>
          obtain ⟨c, rest, later, -, -, hchars⟩ := decodeFrom_cons_eq_ok_iff.mp h
          cases hchars
  | cons c chars ih =>
      cases bytes with
      | nil => simp at h
      | cons octet bytes =>
          obtain ⟨c', rest, later, hnext, hlater, hchars⟩ := decodeFrom_cons_eq_ok_iff.mp h
          cases hchars
          rw [List.flatMap_cons, ← ih hlater]
          exact eq_encodeChar_of_next hnext

/-- Octets are read as a text exactly when they are what the text is written as. -/
theorem decode_eq_ok_iff {bytes : Bytes} {text : String} :
    decode bytes = .ok text ↔ bytes = encode text := by
  unfold decode encode
  rw [Except.map_eq_ok_iff]
  constructor
  · rintro ⟨chars, hchars, rfl⟩
    rw [String.toList_ofList]
    exact eq_encode_of_decodeFrom hchars
  · rintro rfl
    exact ⟨_, decodeFrom_encode 0 _, String.ofList_toList⟩

end Radius.Utf8
