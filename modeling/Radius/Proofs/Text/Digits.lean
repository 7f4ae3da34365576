-- SUMMARY: Numbers written in decimal and octets written in hexadecimal are read back as what they were.
import Mathlib.Data.List.Basic
import Radius.Text.Decimal
import Radius.Text.Hex

/-!
# Digits

A number is written with its last digit behind the digits of what is left of it. What holds of all
written numbers is therefore shown for numbers of one digit, and for a number with one digit more.
-/

namespace Radius

/-! ## The digits of a number -/

namespace Digits

section

variable {base n : Nat} (hbase : 1 < base)
include hbase

/-- A number has one digit, or its last digit stands behind those of a smaller number. -/
theorem induction {motive : (n : Nat) → List Char → Prop}
    (one : ∀ n < base, motive n [n.digitChar])
    (more : ∀ n, 0 < n → ∀ digit < base, motive n (Nat.toDigits base n) →
      motive (n * base + digit) (Nat.toDigits base n ++ [digit.digitChar])) (n : Nat) :
    motive n (Nat.toDigits base n) := by
  induction n using Nat.strongRecOn with
  | ind n ih =>
      rcases Nat.lt_or_ge n base with hone | hmore
      · rw [Nat.toDigits_of_lt_base hone]
        exact one n hone
      · have hpos : 0 < n / base := Nat.div_pos hmore (by omega)
        have hlt : n / base < n := Nat.div_lt_self (by omega) hbase
        have hdigit : n % base < base := Nat.mod_lt n (by omega)
        have hwritten := more (n / base) hpos (n % base) hdigit (ih (n / base) hlt)
        rw [Nat.div_add_mod' n base] at hwritten
        rw [Nat.toDigits_of_base_le hbase hmore]
        exact hwritten

/-- Whoever reads the digits of a base finds nothing else in a number. -/
theorem isSome_of_mem {digit? : Char → Option Nat} {c : Char}
    (hread : ∀ digit < base, digit? digit.digitChar = some digit)
    (h : c ∈ Nat.toDigits base n) : (digit? c).isSome := by
  revert h
  induction n using induction hbase with
  | one n hone =>
      intro h
      rw [List.mem_singleton.mp h, hread n hone]
      rfl
  | more n _ digit hdigit ih =>
      intro h
      rcases List.mem_append.mp h with h | h
      · exact ih h
      · rw [List.mem_singleton.mp h, hread digit hdigit]
        rfl

end

/-- No digit comes first. -/
def Stops (digit? : Char → Option Nat) (text : List Char) : Prop :=
  text.takeWhile (fun c => (digit? c).isSome) = []

/-- Digits are taken as far as they go. -/
theorem takeWhile_append {digit? : Char → Option Nat} {digits rest : List Char}
    (hdigits : ∀ c ∈ digits, (digit? c).isSome) (h : Stops digit? rest) :
    (digits ++ rest).takeWhile (fun c => (digit? c).isSome) = digits := by
  rw [List.takeWhile_append_of_pos hdigits, h, List.append_nil]

end Digits

/-! ## Decimal numbers -/

namespace Decimal

theorem digit?_digitChar {digit : Nat} (h : digit < 10) : digit? digit.digitChar = some digit := by
  revert digit
  decide

theorem isSome_of_mem_toDigits {n : Nat} {c : Char} (h : c ∈ Nat.toDigits 10 n) :
    (digit? c).isSome :=
  Digits.isSome_of_mem (by decide) (fun _ hdigit => digit?_digitChar hdigit) h

/-- Only zero is written with a zero in front. -/
theorem head?_toDigits_ne {n : Nat} (hpos : 0 < n) : (Nat.toDigits 10 n).head? ≠ some '0' := by
  have hnonzero : ∀ digit < 10, 0 < digit → digit.digitChar ≠ '0' := by decide
  revert hpos
  induction n using Digits.induction (by decide : 1 < 10) with
  | one n hone =>
      intro hpos h
      exact hnonzero n hone hpos (Option.some.inj h)
  | more n hpos digit _ ih =>
      intro _ h
      rw [List.head?_append_of_ne_nil _ Nat.toDigits_ne_nil] at h
      exact ih hpos h

section

variable {bound value : Nat}

/-- Digits are read from where those before them end. -/
theorem digitsFrom_append (front back : List Char) :
    digitsFrom bound value (front ++ back) =
      (digitsFrom bound value front).bind (digitsFrom bound · back) := by
  induction front generalizing value with
  | nil => rfl
  | cons c front ih =>
      simp only [List.cons_append, digitsFrom]
      cases digit? c with
      | none => rfl
      | some digit =>
          by_cases hlarge : bound < value * 10 + digit
          · simp only [if_pos hlarge]
            rfl
          · simp only [if_neg hlarge]
            exact ih

theorem digitsFrom_toDigits {n : Nat} (h : n ≤ bound) :
    digitsFrom bound 0 (Nat.toDigits 10 n) = .ok n := by
  revert h
  induction n using Digits.induction (by decide : 1 < 10) with
  | one n hone =>
      intro h
      simp [digitsFrom, digit?_digitChar hone, h]
  | more n _ digit hdigit ih =>
      intro h
      rw [digitsFrom_append, ih (by omega)]
      simp [Except.bind, digitsFrom, digit?_digitChar hdigit, h]

/-- A number in bounds is read back. -/
theorem parse_toString {n : Nat} (h : n ≤ bound) : parse bound (toString n) = .ok n := by
  have hchars : (toString n).toList = Nat.toDigits 10 n := Nat.toList_repr
  have hread := digitsFrom_toDigits h
  unfold parse
  rw [hchars]
  split
  · rename_i hnil
    exact absurd hnil Nat.toDigits_ne_nil
  · rename_i r hplus
    have hdigit := isSome_of_mem_toDigits (n := n) (by rw [hplus]; exact List.mem_cons_self)
    exact absurd hdigit (by decide)
  · rename_i c r _ hcons
    rw [← hcons]
    exact hread

end

theorem parseUInt8_toString (n : UInt8) : parseUInt8 (toString n.toNat) = .ok n := by
  rw [parseUInt8, parse_toString (Nat.le_of_lt_succ n.toNat_lt)]
  simp [Except.map]

theorem parseUInt32_toString (n : UInt32) : parseUInt32 (toString n.toNat) = .ok n := by
  rw [parseUInt32, parse_toString (Nat.le_of_lt_succ n.toNat_lt)]
  simp [Except.map]

end Decimal

/-! ## Hexadecimal numbers -/

namespace Hex

theorem digit?_digitChar {digit : Nat} (h : digit < 16) : digit? digit.digitChar = some digit := by
  revert digit
  decide

theorem isSome_of_mem_toDigits {n : Nat} {c : Char} (h : c ∈ Nat.toDigits 16 n) :
    (digit? c).isSome :=
  Digits.isSome_of_mem (by decide) (fun _ hdigit => digit?_digitChar hdigit) h

theorem foldl_toDigits (n : Nat) :
    (Nat.toDigits 16 n).foldl (fun value c => value * 16 + (digit? c).getD 0) 0 = n := by
  induction n using Digits.induction (by decide : 1 < 16) with
  | one n hone => simp [digit?_digitChar hone]
  | more n _ digit hdigit ih => simp [ih, digit?_digitChar hdigit]

/-! ## Octets in hexadecimal -/

theorem pair?_octetChars (octet : UInt8) :
    pair? (digitChar (octet.toNat / 16)) (digitChar (octet.toNat % 16)) = some octet := by
  have hdigit : ∀ digit < 16, digit? (digitChar digit) = some digit ∧ digitChar digit ≠ '+' := by
    decide
  have hoctet := octet.toNat_lt
  obtain ⟨hhigh, hplus⟩ := hdigit (octet.toNat / 16) (by omega)
  obtain ⟨hlow, -⟩ := hdigit (octet.toNat % 16) (by omega)
  simp only [pair?, if_neg hplus, hhigh, hlow]
  rw [Nat.div_add_mod', UInt8.ofNat_toNat]

theorem pairs?_flatMap (bytes : Bytes) : pairs? (bytes.flatMap octetChars) = some bytes := by
  induction bytes with
  | nil => rfl
  | cons octet bytes ih => simp [octetChars, pairs?, pair?_octetChars, ih]

/-- Octets are read back from their text with its mark. -/
theorem decode?_encode (bytes : Bytes) : decode? ("0x" ++ encode bytes) = some bytes := by
  have hchars : ("0x" ++ encode bytes).toList = '0' :: 'x' :: bytes.flatMap octetChars := by
    simp [encode]
  rw [decode?, hchars]
  exact pairs?_flatMap bytes

end Hex
end Radius
