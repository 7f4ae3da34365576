-- SUMMARY: Revealing undoes hiding: the two chains run over the same hidden blocks, and stripping undoes padding.
import Radius.Proofs.Bytes
import Radius.Proofs.Outcome
import Radius.Secret.Password

/-!
# Hidden passwords

Hiding and revealing combine each block with the digest of the secret and the block
hidden before it. Whoever reveals sees the same hidden blocks as whoever hid them, so
the masks are the same and cancel, whatever the digest function is.
-/

namespace Radius.Password

/-! ## Blocks -/

section

variable {hash : Hash} {secret : Bytes}

@[simp] theorem length_mask (previous : Bytes) : (mask hash secret previous).length = blockLength :=
  (hash (secret ++ previous)).length_bytes

/-- A block of whole octets is hidden as a block, and the mask takes itself back. -/
theorem length_xor_mask {block : Bytes} (h : block.length = blockLength) (previous : Bytes) :
    (Bytes.xor block (mask hash secret previous)).length = blockLength := by
  rw [Bytes.length_xor, h, length_mask, Nat.min_self]

theorem length_take_block {count : Nat} {padded : Bytes}
    (h : padded.length = (count + 1) * blockLength) : (padded.take blockLength).length = blockLength := by
  rw [List.length_take, h]
  exact Nat.min_eq_left (Nat.le_mul_of_pos_left _ (Nat.succ_pos count))

theorem length_drop_block {count : Nat} {padded : Bytes}
    (h : padded.length = (count + 1) * blockLength) :
    (padded.drop blockLength).length = count * blockLength := by
  rw [List.length_drop, h, Nat.succ_mul, Nat.add_sub_cancel]

theorem length_hideBlocks {count : Nat} {previous padded : Bytes}
    (h : padded.length = count * blockLength) :
    (hideBlocks hash secret count previous padded).length = count * blockLength := by
  induction count generalizing previous padded with
  | zero =>
      rw [hideBlocks, Nat.zero_mul]
      rfl
  | succ count ih =>
      rw [hideBlocks, List.length_append, ih (length_drop_block h),
        length_xor_mask (length_take_block h), Nat.succ_mul, Nat.add_comm]

/-- Revealing as many blocks as were hidden, behind the same one, gives the padded password. -/
theorem revealBlocks_hideBlocks {count : Nat} {previous padded : Bytes}
    (h : padded.length = count * blockLength) :
    revealBlocks hash secret count previous (hideBlocks hash secret count previous padded) =
      padded := by
  -- The block hidden last is what both chains go on from.
  induction count generalizing previous padded with
  | zero =>
      rw [Nat.zero_mul, List.length_eq_zero_iff] at h
      rw [revealBlocks, h]
  | succ count ih =>
      have hblock := length_take_block h
      have hhidden : (Bytes.xor (padded.take blockLength) (mask hash secret previous)).length =
          blockLength := length_xor_mask hblock previous
      rw [hideBlocks, revealBlocks]
      simp only [List.take_left' hhidden, List.drop_left' hhidden]
      rw [ih (length_drop_block h), Bytes.xor_xor (by rw [hblock, length_mask]),
        List.take_append_drop]

end

/-! ## Passwords -/

theorem blockCount_pos (length : Nat) : 0 < blockCount length := by
  rw [blockCount]
  omega

/-- The blocks of a password have room for it. -/
theorem le_blockCount_mul (length : Nat) : length ≤ blockCount length * blockLength := by
  rw [blockCount, blockLength]
  omega

/-- A password that is not too long takes no more than eight blocks. -/
theorem blockCount_mul_le {length : Nat} (h : length ≤ maxLength) :
    blockCount length * blockLength ≤ maxLength := by
  rw [maxLength] at h ⊢
  rw [blockCount, blockLength]
  omega

section

variable {hash : Hash} {password secret hidden : Bytes} {authenticator : Block}

theorem hide_eq_ok_iff :
    hide hash password secret authenticator = .ok hidden ↔
      password.length ≤ maxLength ∧
        hidden = hideBlocks hash secret (blockCount password.length) authenticator.bytes
          (password.padTo (blockCount password.length * blockLength)) := by
  unfold hide
  by_cases hlong : maxLength < password.length
  · simp [hlong]
  · simp [hlong, Nat.not_lt.mp hlong, eq_comm]

theorem hide_eq_error_iff {fault : PacketError} :
    hide hash password secret authenticator = .error fault ↔
      maxLength < password.length ∧ fault = .passwordTooLong password.length := by
  unfold hide
  by_cases hlong : maxLength < password.length
  · simp [hlong, eq_comm]
  · simp [hlong]

theorem length_of_hide (h : hide hash password secret authenticator = .ok hidden) :
    hidden.length = blockCount password.length * blockLength := by
  obtain ⟨-, rfl⟩ := hide_eq_ok_iff.mp h
  exact length_hideBlocks (Bytes.length_padTo (le_blockCount_mul _))

theorem length_le_of_hide (h : hide hash password secret authenticator = .ok hidden) :
    hidden.length ≤ maxLength := by
  rw [length_of_hide h]
  exact blockCount_mul_le (hide_eq_ok_iff.mp h).1

/-- What is hidden has a length that can be revealed. -/
theorem isHiddenLength_of_hide (h : hide hash password secret authenticator = .ok hidden) :
    isHiddenLength hidden.length := by
  have hpos : blockCount password.length * blockLength ≠ 0 :=
    Nat.mul_ne_zero (Nat.ne_of_gt (blockCount_pos _)) (by decide)
  have hmax := length_le_of_hide h
  rw [length_of_hide h] at hmax ⊢
  rw [isHiddenLength, Nat.mul_mod_left]
  simp [hpos, hmax]

/-- A password is revealed without the zeros at its end. -/
theorem reveal_of_hide (h : hide hash password secret authenticator = .ok hidden) :
    reveal hash hidden secret authenticator = .ok password.stripTrailingZeros := by
  have hcount : hidden.length / blockLength = blockCount password.length := by
    rw [length_of_hide h, Nat.mul_div_cancel _ (by decide)]
  rw [reveal, if_pos (isHiddenLength_of_hide h)]
  simp only [hcount]
  rw [(hide_eq_ok_iff.mp h).2,
    revealBlocks_hideBlocks (Bytes.length_padTo (le_blockCount_mul _)),
    Bytes.stripTrailingZeros_padTo]

/-! ## What is revealed -/

theorem length_revealBlocks {count : Nat} {previous : Bytes}
    (h : hidden.length = count * blockLength) :
    (revealBlocks hash secret count previous hidden).length = count * blockLength := by
  induction count generalizing previous hidden with
  | zero =>
      rw [revealBlocks, Nat.zero_mul]
      rfl
  | succ count ih =>
      rw [revealBlocks, List.length_append, ih (length_drop_block h),
        length_xor_mask (length_take_block h), Nat.succ_mul, Nat.add_comm]

theorem isHiddenLength_iff {length : Nat} :
    isHiddenLength length ↔ length ≠ 0 ∧ length % blockLength = 0 ∧ length ≤ maxLength := by
  simp [isHiddenLength, and_assoc]

theorem reveal_eq_ok_iff :
    reveal hash hidden secret authenticator = .ok password ↔
      isHiddenLength hidden.length ∧
        password = (revealBlocks hash secret (hidden.length / blockLength) authenticator.bytes
          hidden).stripTrailingZeros := by
  unfold reveal
  by_cases hlength : isHiddenLength hidden.length
  · simp [hlength, eq_comm]
  · simp [hlength]

/-- What was revealed has no zeros at its end. -/
theorem stripTrailingZeros_of_reveal (h : reveal hash hidden secret authenticator = .ok password) :
    password.stripTrailingZeros = password := by
  obtain ⟨-, rfl⟩ := reveal_eq_ok_iff.mp h
  exact Bytes.stripTrailingZeros_stripTrailingZeros _

theorem length_of_reveal_le (h : reveal hash hidden secret authenticator = .ok password) :
    password.length ≤ hidden.length := by
  obtain ⟨hlength, rfl⟩ := reveal_eq_ok_iff.mp h
  obtain ⟨-, hmultiple, -⟩ := isHiddenLength_iff.mp hlength
  have hblocks : hidden.length = hidden.length / blockLength * blockLength :=
    (Nat.div_mul_cancel (Nat.dvd_of_mod_eq_zero hmultiple)).symm
  refine (Bytes.length_stripTrailingZeros_le _).trans ?_
  rw [length_revealBlocks hblocks, ← hblocks]

/-- What was revealed can be hidden again, in no more octets. -/
theorem exists_hide_of_reveal (h : reveal hash hidden secret authenticator = .ok password) :
    ∃ again, hide hash password secret authenticator = .ok again ∧
      again.length ≤ hidden.length := by
  obtain ⟨hlength, -⟩ := reveal_eq_ok_iff.mp h
  obtain ⟨hpos, hmultiple, hmax⟩ := isHiddenLength_iff.mp hlength
  have hpassword := length_of_reveal_le h
  refine ⟨_, hide_eq_ok_iff.mpr ⟨hpassword.trans hmax, rfl⟩, ?_⟩
  rw [length_hideBlocks (Bytes.length_padTo (le_blockCount_mul _)), blockCount]
  rw [blockLength] at hmultiple ⊢
  omega

end

end Radius.Password
