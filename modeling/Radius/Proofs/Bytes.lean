-- SUMMARY: Laws of byte strings: big-endian numbers read back, masks cancel, and padding is what stripping removes.
import Mathlib.Algebra.Order.Ring.Nat
import Mathlib.Data.List.DropRight
import Mathlib.Data.List.Induction
import Radius.Bytes

/-!
# Laws of byte strings

What the wire formats rely on: a big-endian number and its octets determine each
other within a width, combining with a mask twice changes nothing, and the zeros
that padding adds are among those that stripping takes away.
-/

namespace Radius

namespace Bytes

/-! ## Big-endian numbers -/

/-- A byte string stays below the first number that needs one octet more. -/
theorem toNat_lt (bytes : Bytes) : toNat bytes < 256 ^ bytes.length := by
  induction bytes using List.reverseRecOn with
  | nil => decide
  | append_singleton bytes octet ih =>
      have hoctet := octet.toNat_lt
      rw [toNat_concat, List.length_append, List.length_singleton, Nat.pow_succ]
      omega

/-- A number that fits a width is read back as written. -/
theorem toNat_ofNat {width n : Nat} (h : n < 256 ^ width) : toNat (ofNat width n) = n := by
  induction width generalizing n with
  | zero =>
      rw [Nat.pow_zero] at h
      rw [toNat_ofNat_zero]
      omega
  | succ width ih =>
      rw [Nat.pow_succ] at h
      rw [toNat_ofNat_succ, ih (by omega)]
      omega

/-- The octets of a number are the ones it was read from. -/
theorem ofNat_toNat (bytes : Bytes) : ofNat bytes.length (toNat bytes) = bytes := by
  induction bytes using List.reverseRecOn with
  | nil => rfl
  | append_singleton bytes octet ih =>
      have hoctet := octet.toNat_lt
      have hhigh : (toNat bytes * 256 + octet.toNat) / 256 = toNat bytes := by omega
      have hlow : (toNat bytes * 256 + octet.toNat) % 256 = octet.toNat := by omega
      rw [toNat_concat, List.length_append, List.length_singleton, ofNat, hhigh, hlow, ih]
      simp

/-- Four octets and the word they write determine each other. -/
theorem ofNat_word (word : UInt32) : UInt32.ofNat (toNat (ofNat 4 word.toNat)) = word := by
  rw [toNat_ofNat word.toNat_lt]
  simp

theorem ofNat_toNat_word {bytes : Bytes} (h : bytes.length = 4) :
    ofNat 4 (UInt32.ofNat (toNat bytes)).toNat = bytes := by
  have hlt := toNat_lt bytes
  rw [h] at hlt
  rw [UInt32.toNat_ofNat_of_lt' hlt, ← h, ofNat_toNat]

/-! ## Masks -/

@[simp] theorem length_xor (left right : Bytes) :
    (xor left right).length = min left.length right.length := by
  simp [xor]

/-- A mask that reaches far enough takes itself back. -/
theorem xor_xor {bytes mask : Bytes} (h : bytes.length ≤ mask.length) :
    xor (xor bytes mask) mask = bytes := by
  induction bytes generalizing mask with
  | nil => simp [xor]
  | cons octet bytes ih =>
      cases mask with
      | nil => simp at h
      | cons link mask =>
          have hrest : xor (xor bytes mask) mask = bytes := ih (by simpa using h)
          simp only [xor, List.zipWith_cons_cons] at hrest ⊢
          rw [hrest, UInt8.xor_assoc, UInt8.xor_self, UInt8.xor_zero]

/-! ## Padding -/

theorem length_padTo {length : Nat} {bytes : Bytes} (h : bytes.length ≤ length) :
    (padTo length bytes).length = length := by
  simp [padTo]
  omega

/-- Stripping takes away whatever padding added. -/
theorem stripTrailingZeros_padTo (length : Nat) (bytes : Bytes) :
    (padTo length bytes).stripTrailingZeros = bytes.stripTrailingZeros := by
  unfold padTo stripTrailingZeros
  rw [List.reverse_append, List.reverse_replicate]
  rw [List.dropWhile_append_of_pos (by simp)]

theorem length_stripTrailingZeros_le (bytes : Bytes) :
    bytes.stripTrailingZeros.length ≤ bytes.length := by
  rw [stripTrailingZeros, List.length_reverse, ← bytes.length_reverse]
  exact (List.dropWhile_sublist _).length_le

/-- Nothing is left to strip. -/
@[simp] theorem stripTrailingZeros_stripTrailingZeros (bytes : Bytes) :
    bytes.stripTrailingZeros.stripTrailingZeros = bytes.stripTrailingZeros := by
  rw [stripTrailingZeros, stripTrailingZeros, List.reverse_reverse, List.dropWhile_idempotent]

end Bytes

namespace Octets

/-- The first octets of a byte string that has enough of them. -/
theorem bytes_ofPrefix {n : Nat} {bytes : Bytes} (h : n ≤ bytes.length) :
    (ofPrefix n bytes).bytes = bytes.take n := by
  have hnone : n - bytes.length = 0 := by omega
  simp [ofPrefix, Bytes.padTo, hnone]

end Octets
end Radius
