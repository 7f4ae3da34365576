-- SUMMARY: The comparison of authenticators keeps every bit in which two octets differ, and so is equality.
import Radius.Proofs.Bytes
import Radius.Secret.Authenticator

/-!
# Comparing authenticators

The comparison never stops early: it joins the differences of all pairs of octets and
looks at the result once. A bit of what is joined is set as soon as one pair differs in
it, and stays set whatever follows. The pairs end with the shorter of the two byte
strings, so alone they cannot tell a byte string from one that goes on after it; the
lengths are compared apart, and the verdict is that of equality.
-/

namespace Radius

namespace Bytes

/-! ## Differing in a bit -/

/-- Both byte strings have an octet at this place, and the two octets differ in this bit. -/
def DiffersAt (left right : Bytes) (place bit : Nat) : Prop :=
  ∃ octet other, left[place]? = some octet ∧ right[place]? = some other ∧
    octet.toNat.testBit bit ≠ other.toNat.testBit bit

section

variable {left right : Bytes} {octet other : UInt8} {place bit : Nat}

@[simp] theorem not_differsAt_nil_left : ¬ DiffersAt [] right place bit := by
  simp [DiffersAt]

@[simp] theorem not_differsAt_nil_right : ¬ DiffersAt left [] place bit := by
  simp [DiffersAt]

@[simp] theorem differsAt_cons_zero :
    DiffersAt (octet :: left) (other :: right) 0 bit ↔
      octet.toNat.testBit bit ≠ other.toNat.testBit bit := by
  simp [DiffersAt]

@[simp] theorem differsAt_cons_succ :
    DiffersAt (octet :: left) (other :: right) (place + 1) bit ↔
      DiffersAt left right place bit := by
  simp [DiffersAt]

theorem DiffersAt.lt_length (h : DiffersAt left right place bit) : place < left.length := by
  obtain ⟨octet, other, hleft, -, -⟩ := h
  exact (List.getElem?_eq_some_iff.mp hleft).1

/-- Two octets differ in a bit where their exclusive or has it. -/
theorem differsAt_iff_xor :
    DiffersAt left right place bit ↔
      ∃ difference, (xor left right)[place]? = some difference ∧
        difference.toNat.testBit bit = true := by
  simp only [DiffersAt, xor, List.getElem?_zipWith_eq_some]
  constructor
  · rintro ⟨octet, other, hleft, hright, hbit⟩
    refine ⟨octet ^^^ other, ⟨octet, other, hleft, hright, rfl⟩, ?_⟩
    simpa using hbit
  · rintro ⟨_, ⟨octet, other, hleft, hright, rfl⟩, hbit⟩
    refine ⟨octet, other, hleft, hright, ?_⟩
    simpa using hbit

/-- Octets without a differing bit are the same. -/
theorem octet_eq_iff_testBit :
    octet = other ↔ ∀ bit, octet.toNat.testBit bit = other.toNat.testBit bit := by
  constructor
  · rintro rfl bit
    rfl
  · intro h
    exact UInt8.toNat_inj.mp (Nat.eq_of_testBit_eq h)

end

/-- Byte strings differ in no bit, as far as both reach, exactly when one begins with the other. -/
theorem forall_not_differsAt_iff {left right : Bytes} :
    (∀ place bit, ¬ DiffersAt left right place bit) ↔ left <+: right ∨ right <+: left := by
  induction left generalizing right with
  | nil => simp
  | cons octet left ih =>
      cases right with
      | nil => simp
      | cons other right =>
          -- At place zero stand the heads, at every other place the tails.
          rw [← Nat.and_forall_add_one]
          simp only [differsAt_cons_zero, differsAt_cons_succ, not_not, ← octet_eq_iff_testBit, ih,
            List.cons_prefix_cons, eq_comm (a := other), and_or_left]

end Bytes

namespace Authenticator

/-! ## What the comparison collects -/

/-- The differences that the comparison has joined after its first `count` pairs of octets. -/
def differences (expected : Block) (received : Bytes) (count : Nat) : UInt8 :=
  ((Bytes.xor expected.bytes received).take count).foldl (· ||| ·) 0

section

variable {expected : Block} {received : Bytes}

@[simp] theorem differences_zero : differences expected received 0 = 0 := rfl

/-- The verdict looks at the lengths, and at the differences of all pairs. -/
theorem agrees_eq :
    agrees expected received =
      (received.length == 16 && differences expected received 16 == 0) := by
  have hall : (Bytes.xor expected.bytes received).length ≤ 16 := by simp
  rw [agrees, differences, List.take_of_length_le hall, expected.length_bytes]

/-- One more pair sets the bits in which it differs and clears none. -/
theorem testBit_differences_succ {count bit : Nat} :
    (differences expected received (count + 1)).toNat.testBit bit = true ↔
      (differences expected received count).toNat.testBit bit = true ∨
        expected.bytes.DiffersAt received count bit := by
  rw [Bytes.differsAt_iff_xor, differences, differences, List.take_add_one, List.foldl_append]
  cases (Bytes.xor expected.bytes received)[count]? with
  | none => simp
  | some difference => simp

/-- A bit is set exactly when one of the pairs so far differs in it. -/
theorem testBit_differences {count bit : Nat} :
    (differences expected received count).toNat.testBit bit = true ↔
      ∃ place < count, expected.bytes.DiffersAt received place bit := by
  induction count with
  | zero => simp
  | succ count ih => rw [testBit_differences_succ, ih, Nat.exists_lt_succ_right]

/-- Nothing is collected exactly when one of the byte strings begins with the other. -/
theorem differences_eq_zero_iff :
    differences expected received 16 = 0 ↔
      expected.bytes <+: received ∨ received <+: expected.bytes := by
  rw [← Bytes.forall_not_differsAt_iff, Bytes.octet_eq_iff_testBit]
  constructor
  · intro h place bit hdiffer
    -- The pair was joined before the end, and nothing after it cleared the bit.
    have hplace : place < 16 := by simpa using hdiffer.lt_length
    have hset := testBit_differences.mpr ⟨place, hplace, hdiffer⟩
    simp [h bit] at hset
  · intro h bit
    have hclear : ¬ (differences expected received 16).toNat.testBit bit = true := by
      rw [testBit_differences]
      rintro ⟨place, -, hdiffer⟩
      exact h place bit hdiffer
    simpa using hclear

@[simp] theorem agrees_iff : agrees expected received ↔ received = expected.bytes := by
  rw [agrees_eq, Bool.and_eq_true, beq_iff_eq, beq_iff_eq, differences_eq_zero_iff]
  constructor
  · rintro ⟨hlength, hlonger | hshorter⟩
    · exact (hlonger.eq_of_length (by simp [hlength])).symm
    · exact hshorter.eq_of_length (by simp [hlength])
  · rintro rfl
    simp

end

/-! ## The comparison is equality -/

/-- A received byte string of any length is accepted exactly when it is the expected block. Its
length and the differences of all pairs decide. After any number of pairs, a bit of what is
collected is set exactly when one of these pairs differs in it, so no difference takes back
another. Nothing is collected exactly when one of the byte strings begins with the other, and
of those the length refuses every one but the block itself. -/
theorem agreement_is_equality (expected : Block) (received : Bytes) :
    (agrees expected received = true ↔ received = expected.bytes) ∧
    agrees expected received =
      (received.length == 16 && differences expected received 16 == 0) ∧
    (∀ count bit, (differences expected received count).toNat.testBit bit = true ↔
      ∃ place < count, expected.bytes.DiffersAt received place bit) ∧
    (differences expected received 16 = 0 ↔
      expected.bytes <+: received ∨ received <+: expected.bytes) :=
  ⟨agrees_iff, agrees_eq, fun _ _ => testBit_differences, differences_eq_zero_iff⟩

/-- Two octets that are off in the same bit do not make up for each other. -/
example : agrees (Octets.zero 16) (128 :: 128 :: List.replicate 14 0) = false := by decide

end Authenticator
end Radius
