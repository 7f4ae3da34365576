-- SUMMARY: Byte strings, big-endian numbers in them, and strings of a fixed number of octets.

/-!
# Byte strings

Everything that travels in a datagram is a list of octets. A number is written
big-endian in a fixed number of octets: `ofNat width n` writes the last `width`
base-256 digits of `n`, and `toNat` reads them back. Addresses, authenticators
and digests are `Octets n`, byte strings whose length is part of the type.
-/

namespace Radius

abbrev Bytes := List UInt8

namespace Bytes

/-! ## Big-endian numbers -/

/-- The big-endian value of a byte string. -/
def toNat (bytes : Bytes) : Nat :=
  bytes.foldl (fun value octet => value * 256 + octet.toNat) 0

/-- The last `width` base-256 digits of `n`, most significant first. -/
def ofNat : (width n : Nat) → Bytes
  | 0,         _ => []
  | width + 1, n => ofNat width (n / 256) ++ [UInt8.ofNat (n % 256)]

@[simp] theorem length_ofNat (width n : Nat) : (ofNat width n).length = width := by
  induction width generalizing n with
  | zero => rfl
  | succ width ih => simp [ofNat, ih]

@[simp] theorem toNat_nil : toNat [] = 0 := rfl

theorem toNat_concat (bytes : Bytes) (octet : UInt8) :
    toNat (bytes ++ [octet]) = toNat bytes * 256 + octet.toNat := by
  simp [toNat]

@[simp] theorem toNat_ofNat_zero (n : Nat) : toNat (ofNat 0 n) = 0 := rfl

/-- The last digit that is read back is the last one of the number. -/
theorem toNat_ofNat_succ (width n : Nat) :
    toNat (ofNat (width + 1) n) = toNat (ofNat width (n / 256)) * 256 + n % 256 := by
  rw [ofNat, toNat_concat]
  simp

/-! ## Pieces -/

/-- The octets from index `first` up to but not including index `last`. -/
def slice (bytes : Bytes) (first last : Nat) : Bytes :=
  (bytes.take last).drop first

/-- Two byte strings combined octet by octet with exclusive or, as far as both reach. -/
def xor (left right : Bytes) : Bytes :=
  List.zipWith (· ^^^ ·) left right

/-- The octets without the zeros at their end. -/
def stripTrailingZeros (bytes : Bytes) : Bytes :=
  (bytes.reverse.dropWhile (· == 0)).reverse

/-- The octets followed by as many zeros as bring them to `length`; never cut. -/
def padTo (length : Nat) (bytes : Bytes) : Bytes :=
  bytes ++ List.replicate (length - bytes.length) 0

end Bytes

/-! ## Fixed lengths -/

/-- A byte string of exactly `n` octets. -/
structure Octets (n : Nat) where
  bytes : Bytes
  length_bytes : bytes.length = n
deriving DecidableEq, Repr

namespace Octets

attribute [simp] length_bytes

@[ext] theorem ext {n : Nat} {a b : Octets n} (h : a.bytes = b.bytes) : a = b := by
  cases a
  cases b
  cases h
  rfl

/-- The byte string as `n` octets, if it has that length. -/
def ofBytes? (n : Nat) (bytes : Bytes) : Option (Octets n) :=
  if h : bytes.length = n then some ⟨bytes, h⟩ else none

/-- The `n` octets that write a number big-endian. -/
def ofNat (n value : Nat) : Octets n := ⟨Bytes.ofNat n value, Bytes.length_ofNat n value⟩

/-- The first `n` octets of a byte string, with zeros in the place of those it lacks. -/
def ofPrefix (n : Nat) (bytes : Bytes) : Octets n :=
  ⟨(Bytes.padTo n bytes).take n, by simp [Bytes.padTo]; omega⟩

def toNat {n : Nat} (octets : Octets n) : Nat := octets.bytes.toNat

instance {n : Nat} : Inhabited (Octets n) := ⟨ofNat n 0⟩

/-- `n` zero octets. -/
def zero (n : Nat) : Octets n := ⟨List.replicate n 0, by simp⟩

@[simp] theorem ofBytes?_bytes {n : Nat} (octets : Octets n) : ofBytes? n octets.bytes = some octets := by
  simp [ofBytes?]

theorem ofBytes?_eq_some_iff {n : Nat} {bytes : Bytes} {octets : Octets n} :
    ofBytes? n bytes = some octets ↔ bytes = octets.bytes := by
  constructor
  · intro h
    unfold ofBytes? at h
    split at h <;> cases h
    rfl
  · rintro rfl
    exact ofBytes?_bytes octets

end Octets

/-- A block of sixteen octets: an authenticator, a digest, or a link of the password chain. -/
abbrev Block := Octets 16

/-- A digest function. The rules of this library hold for any function from byte strings to
blocks; `Md5.digest` is the one that packets on the wire use. -/
abbrev Hash := Bytes → Block

end Radius
