-- SUMMARY: Hiding and revealing passwords chunk by chunk, with copies of a fixed length: every chunk is a whole block, so no copy is trapped.
import Radius.Proofs.Raw.Basic
import Radius.Proofs.Secret.Password

/-!
# Passwords by chunks

The chain takes chunks of at most sixteen octets off its input and copies sixteen octets to start
the next link, and the last chunk of an input may be shorter than that. A password is padded to
whole blocks before it is hidden, and what is revealed is checked to be whole blocks, so every
copy fits.
-/

namespace Radius.Raw

/-- The pieces of sixteen octets, the last of which may be shorter. -/
def chunks : Bytes → List Bytes
  | []            => []
  | first :: rest =>
      (first :: rest).take Password.blockLength ::
        chunks ((first :: rest).drop Password.blockLength)
termination_by input => input.length
decreasing_by
  simp only [List.length_drop, List.length_cons, Password.blockLength]
  omega

theorem chunks_nil : chunks [] = [] := by
  rw [chunks]

theorem chunks_of_length {count : Nat} {input : Bytes}
    (h : input.length = (count + 1) * Password.blockLength) :
    chunks input = input.take Password.blockLength :: chunks (input.drop Password.blockLength) := by
  cases input with
  | nil =>
      rw [List.length_nil, Password.blockLength] at h
      omega
  | cons first rest => rw [chunks]

def toBlock {ε : Type} (bytes : Bytes) : Raw ε Block := copy 16 bytes

theorem toBlock_of_length {ε : Type} {bytes : Bytes} (h : bytes.length = Password.blockLength) :
    (toBlock bytes : Raw ε Block) = .done ⟨bytes, h⟩ :=
  copy_of_length h

section

variable {ε : Type} (hash : Hash) (secret : Bytes)

/-- Combine chunks with the digests of a chain; `link` makes the start of the next digest of what
a chunk is turned into and of the chunk itself. -/
def chain (link : (combined chunk : Bytes) → Raw ε Block) (previous : Block) :
    (input : List Bytes) → Raw ε Bytes
  | []             => return []
  | chunk :: later => do
      let combined := Bytes.xor chunk (Password.mask hash secret previous.bytes)
      let next ← link combined chunk
      return combined ++ (← chain link next later)

/-- Whole blocks are hidden. -/
theorem chain_hide {count : Nat} {previous : Block} {input : Bytes}
    (h : input.length = count * Password.blockLength) :
    chain (ε := ε) hash secret (fun combined _ => toBlock combined) previous (chunks input) =
      .done (Password.hideBlocks hash secret count previous.bytes input) := by
  induction count generalizing previous input with
  | zero =>
      rw [Nat.zero_mul, List.length_eq_zero_iff] at h
      rw [h, chunks_nil]
      rfl
  | succ count ih =>
      have hcombined : (Bytes.xor (input.take Password.blockLength)
          (Password.mask hash secret previous.bytes)).length = Password.blockLength :=
        Password.length_xor_mask (Password.length_take_block h) previous.bytes
      rw [chunks_of_length h, chain, toBlock_of_length hcombined, done_bind,
        ih (Password.length_drop_block h)]
      rfl

/-- Whole blocks are revealed. -/
theorem chain_reveal {count : Nat} {previous : Block} {input : Bytes}
    (h : input.length = count * Password.blockLength) :
    chain (ε := ε) hash secret (fun _ chunk => toBlock chunk) previous (chunks input) =
      .done (Password.revealBlocks hash secret count previous.bytes input) := by
  induction count generalizing previous input with
  | zero =>
      rw [Nat.zero_mul, List.length_eq_zero_iff] at h
      rw [h, chunks_nil]
      rfl
  | succ count ih =>
      rw [chunks_of_length h, chain, toBlock_of_length (Password.length_take_block h), done_bind,
        ih (Password.length_drop_block h)]
      rfl

end

/-! ## Hiding and revealing -/

section

variable (hash : Hash) (secret : Bytes) (authenticator : Block)

def hide (password : Bytes) : Raw PacketError Bytes :=
  if Password.maxLength < password.length then .failed (.passwordTooLong password.length)
  else
    let padded := password.padTo (Password.blockCount password.length * Password.blockLength)
    chain hash secret (fun combined _ => toBlock combined) authenticator (chunks padded)

def reveal (hidden : Bytes) : Raw PacketError Bytes := do
  if hidden.isEmpty ∨ hidden.length % Password.blockLength ≠ 0 ∨
      Password.maxLength < hidden.length then
    .failed (.invalidPassword hidden.length)
  else
    let revealed ← chain hash secret (fun _ chunk => toBlock chunk) authenticator (chunks hidden)
    return revealed.stripTrailingZeros

theorem hide_eq (password : Bytes) :
    hide hash secret authenticator password =
      ofExcept (Password.hide hash password secret authenticator) := by
  unfold hide Password.hide
  split
  · rfl
  · exact chain_hide hash secret (Bytes.length_padTo (Password.le_blockCount_mul _))

theorem reveal_eq (hidden : Bytes) :
    reveal hash secret authenticator hidden =
      ofExcept (Password.reveal hash hidden secret authenticator) := by
  unfold reveal Password.reveal
  by_cases hlength : Password.isHiddenLength hidden.length
  · obtain ⟨hne, hwhole, hmax⟩ := Password.isHiddenLength_iff.mp hlength
    have hchecked : ¬ (hidden.isEmpty ∨ hidden.length % Password.blockLength ≠ 0 ∨
        Password.maxLength < hidden.length) := by
      rw [List.isEmpty_iff_length_eq_zero]
      omega
    have hcount : hidden.length = hidden.length / Password.blockLength * Password.blockLength :=
      (Nat.div_mul_cancel (Nat.dvd_of_mod_eq_zero hwhole)).symm
    rw [if_neg hchecked, if_pos hlength, chain_reveal hash secret hcount, done_bind]
    rfl
  · have hchecked : hidden.isEmpty ∨ hidden.length % Password.blockLength ≠ 0 ∨
        Password.maxLength < hidden.length := by
      rw [Password.isHiddenLength_iff] at hlength
      rw [List.isEmpty_iff_length_eq_zero]
      omega
    rw [if_pos hchecked, if_neg hlength]
    rfl

end

end Radius.Raw
