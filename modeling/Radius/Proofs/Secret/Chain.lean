-- SUMMARY: A hidden password is the chain of RFC 2865 block for block; revealing accepts what has the length of one, and hiding what was revealed gives its first blocks back.
import Radius.Digest.Md5
import Radius.Proofs.Secret.Password

/-!
# The chain of a hidden password

RFC 2865, section 5.2, numbers the blocks of the padded password and of what is hidden: each hidden
block is the block of the password combined with the digest of the secret and the hidden block
before it, and the authenticator stands before the first one. Here the blocks are read off by their
places, apart from the walk that makes them. The walk back undoes the walk there, also when the
zeros that are stripped reach over whole blocks: hiding again then gives fewer blocks, the same ones
from the first.
-/

namespace Radius

/-! ## Zeros at the end -/

namespace Bytes

/-- What is stripped is zeros. -/
theorem exists_stripTrailingZeros_append (bytes : Bytes) :
    ∃ zeros, bytes = bytes.stripTrailingZeros ++ List.replicate zeros 0 := by
  have hsplit := bytes.reverse.takeWhile_append_dropWhile (p := (· == 0))
  have hzeros : ∀ octet ∈ bytes.reverse.takeWhile (· == 0), octet = 0 :=
    fun octet hoctet => by simpa using List.mem_takeWhile_imp hoctet
  refine ⟨(bytes.reverse.takeWhile (· == 0)).length, ?_⟩
  rw [← List.reverse_inj, stripTrailingZeros, List.reverse_append, List.reverse_reverse,
    List.reverse_replicate, ← List.eq_replicate_of_mem hzeros, hsplit]

/-- What is left has no zero at its end. -/
theorem getLast?_stripTrailingZeros (bytes : Bytes) :
    bytes.stripTrailingZeros.getLast? ≠ some 0 := by
  rw [stripTrailingZeros, List.getLast?_reverse]
  intro hzero
  have hnot := List.head?_dropWhile_not (· == 0) bytes.reverse
  rw [hzero] at hnot
  simp at hnot

/-- Padding puts back as many of the zeros as it has room for. -/
theorem padTo_stripTrailingZeros {bytes : Bytes} {length : Nat}
    (hroom : bytes.stripTrailingZeros.length ≤ length) (hlength : length ≤ bytes.length) :
    bytes.stripTrailingZeros.padTo length = bytes.take length := by
  obtain ⟨zeros, hbytes⟩ := exists_stripTrailingZeros_append bytes
  have hzeros : length - bytes.stripTrailingZeros.length ≤ zeros := by
    rw [hbytes, List.length_append, List.length_replicate] at hlength
    omega
  rw [padTo]
  conv_rhs => rw [hbytes]
  rw [List.take_append, List.take_of_length_le hroom, List.take_replicate, Nat.min_eq_left hzeros]

end Bytes

namespace Password

/-! ## Blocks by their places -/

/-- The block at a place; the first one has the place 0. -/
def blockAt (bytes : Bytes) (index : Nat) : Bytes :=
  (bytes.drop (index * blockLength)).take blockLength

/-- What stands before the block at a place: the hidden block before it, or what the chain starts
with. -/
def linkAt (start hidden : Bytes) : (index : Nat) → Bytes
  | 0         => start
  | index + 1 => blockAt hidden index

/-- What is hidden of a padded password, block for block. -/
structure Chained (hash : Hash) (secret start : Bytes) (count : Nat) (padded hidden : Bytes) :
    Prop where
  length_eq : hidden.length = count * blockLength
  block_eq : ∀ index < count, blockAt hidden index =
    Bytes.xor (blockAt padded index) (hash (secret ++ linkAt start hidden index)).bytes

theorem blockAt_zero (bytes : Bytes) : blockAt bytes 0 = bytes.take blockLength := by
  rw [blockAt, Nat.zero_mul, List.drop_zero]

theorem blockAt_succ (bytes : Bytes) (index : Nat) :
    blockAt bytes (index + 1) = blockAt (bytes.drop blockLength) index := by
  rw [blockAt, blockAt, List.drop_drop, Nat.succ_mul, Nat.add_comm]

/-- From the second block on, the chain is the one that starts with the first block. -/
theorem linkAt_succ (start hidden : Bytes) (index : Nat) :
    linkAt start hidden (index + 1) =
      linkAt (hidden.take blockLength) (hidden.drop blockLength) index := by
  cases index with
  | zero => exact blockAt_zero hidden
  | succ index => exact blockAt_succ hidden index

section

variable {hash : Hash} {secret : Bytes}

theorem chained_hideBlocks {count : Nat} {start padded : Bytes}
    (h : padded.length = count * blockLength) :
    Chained hash secret start count padded (hideBlocks hash secret count start padded) := by
  refine ⟨length_hideBlocks h, ?_⟩
  induction count generalizing start padded with
  | zero => exact fun _ hindex => absurd hindex (Nat.not_lt_zero _)
  | succ count ih =>
      intro index hindex
      have hfirst : (Bytes.xor (padded.take blockLength) (mask hash secret start)).length =
          blockLength := length_xor_mask (length_take_block h) start
      rw [hideBlocks]
      cases index with
      | zero =>
          rw [blockAt_zero, blockAt_zero, List.take_left' hfirst]
          rfl
      | succ index =>
          rw [blockAt_succ, blockAt_succ, linkAt_succ, List.take_left' hfirst,
            List.drop_left' hfirst]
          exact ih (length_drop_block h) index (Nat.lt_of_succ_lt_succ hindex)

/-! ## There and back from the other side -/

/-- As many blocks are hidden as are asked for, whatever stands behind them. -/
theorem hideBlocks_take (count : Nat) (previous padded : Bytes) :
    hideBlocks hash secret count previous (padded.take (count * blockLength)) =
      hideBlocks hash secret count previous padded := by
  induction count generalizing previous padded with
  | zero => rfl
  | succ count ih =>
      have hfirst : (padded.take ((count + 1) * blockLength)).take blockLength =
          padded.take blockLength := by
        rw [List.take_take, Nat.min_eq_left (Nat.le_mul_of_pos_left _ (Nat.succ_pos count))]
      have hrest : (padded.take ((count + 1) * blockLength)).drop blockLength =
          (padded.drop blockLength).take (count * blockLength) := by
        rw [List.drop_take, Nat.succ_mul, Nat.add_sub_cancel]
      rw [hideBlocks, hideBlocks, hfirst, hrest, ih]

/-- Hiding the first blocks of what was revealed, behind the same one, gives the first hidden
blocks. -/
theorem hideBlocks_revealBlocks {count total : Nat} (hcount : count ≤ total)
    {previous hidden : Bytes} (h : hidden.length = total * blockLength) :
    hideBlocks hash secret count previous (revealBlocks hash secret total previous hidden) =
      hidden.take (count * blockLength) := by
  -- Both chains go on from the hidden block, which is there again after two masks.
  induction count generalizing total previous hidden with
  | zero => rw [hideBlocks, Nat.zero_mul, List.take_zero]
  | succ count ih =>
      cases total with
      | zero => exact absurd hcount (Nat.not_succ_le_zero _)
      | succ total =>
          have hblock := length_take_block h
          have hrevealed : (Bytes.xor (hidden.take blockLength)
              (mask hash secret previous)).length = blockLength := length_xor_mask hblock previous
          rw [revealBlocks, hideBlocks]
          simp only [List.take_left' hrevealed, List.drop_left' hrevealed]
          rw [Bytes.xor_xor (by rw [hblock, length_mask]),
            ih (Nat.le_of_succ_le_succ hcount) (length_drop_block h), Nat.succ_mul,
            Nat.add_comm (count * blockLength), List.take_add]

end

/-! ## Passwords -/

section

variable {hash : Hash} {password secret hidden : Bytes} {authenticator : Block}

theorem chained_of_hide (h : hide hash password secret authenticator = .ok hidden) :
    Chained hash secret authenticator.bytes (blockCount password.length)
      (password.padTo (blockCount password.length * blockLength)) hidden := by
  obtain ⟨-, rfl⟩ := hide_eq_ok_iff.mp h
  exact chained_hideBlocks (Bytes.length_padTo (le_blockCount_mul _))

/-- A password that was revealed takes no more blocks than it was hidden in. -/
theorem blockCount_mul_le_of_reveal (h : reveal hash hidden secret authenticator = .ok password) :
    blockCount password.length * blockLength ≤ hidden.length := by
  obtain ⟨again, hagain, hle⟩ := exists_hide_of_reveal h
  rwa [length_of_hide hagain] at hle

/-- Hiding what was revealed gives the hidden blocks that the password still takes. -/
theorem hide_of_reveal (h : reveal hash hidden secret authenticator = .ok password) :
    hide hash password secret authenticator =
      .ok (hidden.take (blockCount password.length * blockLength)) := by
  have hfits := blockCount_mul_le_of_reveal h
  have hpassword := length_of_reveal_le h
  obtain ⟨hlength, hrevealed⟩ := reveal_eq_ok_iff.mp h
  obtain ⟨-, hmultiple, hmax⟩ := isHiddenLength_iff.mp hlength
  have hblocks : hidden.length = hidden.length / blockLength * blockLength :=
    (Nat.div_mul_cancel (Nat.dvd_of_mod_eq_zero hmultiple)).symm
  have hcount : blockCount password.length ≤ hidden.length / blockLength := by
    rw [hblocks] at hfits
    exact Nat.le_of_mul_le_mul_right hfits (by decide)
  refine hide_eq_ok_iff.mpr ⟨hpassword.trans hmax, ?_⟩
  -- The padding is the zeros that were stripped, as far as it reaches.
  have hroom := le_blockCount_mul password.length
  have hends : (revealBlocks hash secret (hidden.length / blockLength) authenticator.bytes
      hidden).length = hidden.length := (length_revealBlocks hblocks).trans hblocks.symm
  rw [hrevealed] at hroom hfits ⊢
  rw [Bytes.padTo_stripTrailingZeros hroom (hfits.trans_eq hends.symm), ← hrevealed,
    hideBlocks_take, hideBlocks_revealBlocks hcount hblocks]

/-- Hiding is the chain of RFC 2865 over the password with zeros behind it, for any digest function;
a password that is too long is refused. Revealing accepts one to eight whole blocks and nothing
else, and takes the zeros at the end of what was hidden away. Hiding again what was revealed gives
as many of the hidden blocks as the password still takes. -/
theorem hiding_is_chained (hash : Hash) (secret : Bytes) (authenticator : Block) :
    (∀ password : Bytes, password.length ≤ 128 → ∃ hidden revealed zeros,
      hide hash password secret authenticator = .ok hidden ∧
      Chained hash secret authenticator.bytes (max 1 ((password.length + 15) / 16))
        (password.padTo (max 1 ((password.length + 15) / 16) * 16)) hidden ∧
      reveal hash hidden secret authenticator = .ok revealed ∧
      password = revealed ++ List.replicate zeros 0 ∧ revealed.getLast? ≠ some 0) ∧
    (∀ password : Bytes, 128 < password.length →
      hide hash password secret authenticator = .error (.passwordTooLong password.length)) ∧
    (∀ hidden : Bytes, (∃ password, reveal hash hidden secret authenticator = .ok password) ↔
      0 < hidden.length ∧ hidden.length % 16 = 0 ∧ hidden.length ≤ 128) ∧
    ∀ hidden password : Bytes, reveal hash hidden secret authenticator = .ok password →
      hide hash password secret authenticator =
        .ok (hidden.take (max 1 ((password.length + 15) / 16) * 16)) := by
  refine ⟨fun password hshort => ?_, fun password hlong => if_pos hlong, fun hidden => ?_,
    fun hidden password hrevealed => hide_of_reveal hrevealed⟩
  · have hhidden : hide hash password secret authenticator = .ok _ :=
      hide_eq_ok_iff.mpr ⟨hshort, rfl⟩
    obtain ⟨zeros, hzeros⟩ := password.exists_stripTrailingZeros_append
    exact ⟨_, _, zeros, hhidden, chained_of_hide hhidden, reveal_of_hide hhidden, hzeros,
      password.getLast?_stripTrailingZeros⟩
  · simp only [reveal_eq_ok_iff, exists_and_left, exists_eq, and_true, isHiddenLength_iff,
      Nat.pos_iff_ne_zero]
    rfl

end

namespace Sample

def secret : Bytes := [0x78, 0x79, 0x7a, 0x7a, 0x79, 0x35, 0x34, 0x36, 0x31]

def authenticator : Block := ⟨List.replicate 16 0x42, rfl⟩

/-- A password of ten octets. -/
def password : Bytes := [0x61, 0x72, 0x63, 0x74, 0x61, 0x6e, 0x67, 0x65, 0x6e, 0x74]

/-- The password in a block of its own, and two blocks of zeros. -/
def hidden : Bytes :=
  [0xe4, 0xd3, 0x90, 0xe5, 0xd2, 0x4b, 0xb5, 0xae, 0x23, 0x71, 0xaa, 0x47, 0xa3, 0xd1, 0xc6, 0x84,
    0xe2, 0xd3, 0x7c, 0x95, 0xcd, 0x91, 0x78, 0xcf, 0xa6, 0xd4, 0xff, 0xe9, 0xb4, 0x97, 0x32, 0xde,
    0xe3, 0x4f, 0x5c, 0x66, 0x19, 0xdc, 0x50, 0x37, 0xfd, 0x22, 0x15, 0x07, 0xf8, 0x40, 0xba, 0xbe]

end Sample

theorem sample_hiding_is_chained :
    Chained Md5.digest Sample.secret Sample.authenticator.bytes 3 (Sample.password.padTo 48)
      Sample.hidden ∧
    reveal Md5.digest Sample.hidden Sample.secret Sample.authenticator = .ok Sample.password ∧
    hide Md5.digest Sample.password Sample.secret Sample.authenticator =
      .ok (Sample.hidden.take 16) := by
  obtain ⟨hshort, -, -, hagain⟩ :=
    hiding_is_chained Md5.digest Sample.secret Sample.authenticator
  have hpassword : reveal Md5.digest Sample.hidden Sample.secret Sample.authenticator =
      .ok Sample.password := by decide +kernel
  obtain ⟨hidden, -, -, hhidden, hchained, -⟩ := hshort (Sample.password.padTo 38) (by decide)
  have hsame : hide Md5.digest (Sample.password.padTo 38) Sample.secret Sample.authenticator =
      .ok Sample.hidden := by decide +kernel
  rw [hhidden, Except.ok.injEq] at hsame
  exact ⟨hsame ▸ hchained, hpassword, hagain _ _ hpassword⟩

end Password
end Radius
