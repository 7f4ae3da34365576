-- SUMMARY: Hiding passwords with the shared secret, and the response to a CHAP challenge.
import Radius.Packet.Error

/-!
# Passwords

A password is padded with zeros to whole blocks of sixteen octets, at least one and
at most eight. Each block is combined with the digest of the secret and the block
hidden before it, the authenticator in front of the first. Revealing runs the same
chain over the hidden blocks and drops the zeros at the end.
-/

namespace Radius.Password

def maxLength : Nat := 128

def blockLength : Nat := 16

/-- The link of the chain behind a block. -/
def mask (hash : Hash) (secret previous : Bytes) : Bytes := (hash (secret ++ previous)).bytes

/-- Hide `count` blocks of a padded password. -/
def hideBlocks (hash : Hash) (secret : Bytes) : (count : Nat) → (previous padded : Bytes) → Bytes
  | 0,         _,        _      => []
  | count + 1, previous, padded =>
      let hidden := Bytes.xor (padded.take blockLength) (mask hash secret previous)
      hidden ++ hideBlocks hash secret count hidden (padded.drop blockLength)

/-- Reveal `count` hidden blocks. -/
def revealBlocks (hash : Hash) (secret : Bytes) : (count : Nat) → (previous hidden : Bytes) → Bytes
  | 0,         _,        _      => []
  | count + 1, previous, hidden =>
      let block := hidden.take blockLength
      Bytes.xor block (mask hash secret previous) ++
        revealBlocks hash secret count block (hidden.drop blockLength)

/-- How many blocks a password takes. -/
def blockCount (length : Nat) : Nat := max 1 ((length + 15) / blockLength)

def hide (hash : Hash) (password secret : Bytes) (authenticator : Block) :
    Except PacketError Bytes :=
  if maxLength < password.length then .error (.passwordTooLong password.length)
  else
    let count := blockCount password.length
    .ok (hideBlocks hash secret count authenticator.bytes (password.padTo (count * blockLength)))

/-- Whether a hidden password can have this length. -/
def isHiddenLength (length : Nat) : Bool :=
  length ≠ 0 && length % blockLength = 0 && length ≤ maxLength

def reveal (hash : Hash) (hidden secret : Bytes) (authenticator : Block) :
    Except PacketError Bytes :=
  if isHiddenLength hidden.length then
    let count := hidden.length / blockLength
    .ok (revealBlocks hash secret count authenticator.bytes hidden).stripTrailingZeros
  else .error (.invalidPassword hidden.length)

/-- The digest that answers a CHAP challenge. -/
def chapResponse (hash : Hash) (identifier : UInt8) (password challenge : Bytes) : Block :=
  hash (identifier :: password ++ challenge)

end Radius.Password
