-- SUMMARY: A network contains the addresses of its family that begin with the same bits.
import Mathlib.Tactic.Ring
import Radius.Address.Network
import Radius.Proofs.Bytes

/-!
# Networks

The bits of an address are those of its octets in turn, the most significant bit of each first. A
network of so many bits contains the addresses of its family that begin with the same bits; taken as
numbers these are what a shift leaves.
-/

namespace Radius

/-! ## Bits -/

namespace Bits

/-- The number that bits write, the most significant one first. -/
def toNat : List Bool → Nat
  | []          => 0
  | bit :: rest => bit.toNat * 2 ^ rest.length + toNat rest

theorem toNat_lt (bits : List Bool) : toNat bits < 2 ^ bits.length := by
  induction bits with
  | nil => decide
  | cons bit rest ih =>
      rw [toNat, List.length_cons, Nat.pow_succ]
      cases bit <;> simp <;> omega

theorem toNat_append (front back : List Bool) :
    toNat (front ++ back) = toNat front * 2 ^ back.length + toNat back := by
  induction front with
  | nil => simp [toNat]
  | cons bit front ih =>
      rw [List.cons_append, toNat, toNat, ih, List.length_append, Nat.pow_add]
      ring

/-- Shifting all bits out but the first ones leaves the number that these write. -/
theorem toNat_shiftRight (bits : List Bool) (count : Nat) :
    toNat bits >>> (bits.length - count) = toNat (bits.take count) := by
  have hsplit := toNat_append (bits.take count) (bits.drop count)
  have hrest := toNat_lt (bits.drop count)
  rw [List.take_append_drop] at hsplit
  rw [List.length_drop] at hsplit hrest
  rw [Nat.shiftRight_eq_div_pow, hsplit, Nat.mul_comm,
    Nat.mul_add_div (Nat.two_pow_pos _), Nat.div_eq_of_lt hrest, Nat.add_zero]

/-- As many bits write the same number only if they are the same. -/
theorem toNat_inj {bits other : List Bool} (h : bits.length = other.length) :
    toNat bits = toNat other ↔ bits = other := by
  induction bits generalizing other with
  | nil => simp [List.length_eq_zero_iff.mp h.symm]
  | cons bit rest ih =>
      cases other with
      | nil => cases h
      | cons bit' rest' =>
          have hlength : rest.length = rest'.length := Nat.succ.inj h
          have hrest := toNat_lt rest
          have hrest' := toNat_lt rest'
          rw [toNat, toNat, List.cons.injEq, ← ih hlength, hlength]
          rw [hlength] at hrest
          cases bit <;> cases bit' <;> simp <;> omega

/-- The last `width` bits of a number, the most significant one first. -/
def ofNat : (width n : Nat) → List Bool
  | 0,         _ => []
  | width + 1, n => n.testBit width :: ofNat width n

theorem length_ofNat (width n : Nat) : (ofNat width n).length = width := by
  induction width with
  | zero => rfl
  | succ width ih => rw [ofNat, List.length_cons, ih]

theorem toNat_ofNat (width n : Nat) : toNat (ofNat width n) = n % 2 ^ width := by
  induction width with
  | zero => rw [Nat.pow_zero, Nat.mod_one]; rfl
  | succ width ih =>
      rw [ofNat, toNat, ih, length_ofNat, Nat.mod_pow_succ, Nat.toNat_testBit]
      ring

/-- The bits of octets in turn. -/
def ofBytes (bytes : Bytes) : List Bool := bytes.flatMap (fun octet => ofNat 8 octet.toNat)

theorem length_ofBytes (bytes : Bytes) : (ofBytes bytes).length = 8 * bytes.length := by
  induction bytes with
  | nil => rfl
  | cons octet bytes ih =>
      rw [ofBytes, List.flatMap_cons, List.length_append, ← ofBytes, ih, length_ofNat,
        List.length_cons]
      omega

theorem toNat_ofBytes (bytes : Bytes) : toNat (ofBytes bytes) = bytes.toNat := by
  induction bytes using List.reverseRecOn with
  | nil => rfl
  | append_singleton bytes octet ih =>
      have hbits : ofBytes (bytes ++ [octet]) = ofBytes bytes ++ ofNat 8 octet.toNat := by
        simp [ofBytes]
      rw [hbits, toNat_append, ih, toNat_ofNat, length_ofNat, Nat.mod_eq_of_lt octet.toNat_lt,
        Bytes.toNat_concat]
      norm_num

end Bits

/-! ## Networks -/

namespace Network

/-- An address is of the family of a network and begins with the same bits. -/
def Covers : Network → Ip → Prop
  | .v4 network bits, .v4 address =>
      (Bits.ofBytes network.octets.bytes).take bits = (Bits.ofBytes address.octets.bytes).take bits
  | .v6 network bits, .v6 address =>
      (Bits.ofBytes network.octets.bytes).take bits = (Bits.ofBytes address.octets.bytes).take bits
  | _, _ => False

/-- The leading bits of octets, as numbers, are the bits that they begin with. -/
theorem leadingBits_eq_iff {n : Nat} (octets other : Octets n) (bits : Nat) :
    leadingBits (8 * n) bits octets.toNat = leadingBits (8 * n) bits other.toNat ↔
      (Bits.ofBytes octets.bytes).take bits = (Bits.ofBytes other.bytes).take bits := by
  have hleading (octets : Octets n) : leadingBits (8 * n) bits octets.toNat =
      Bits.toNat ((Bits.ofBytes octets.bytes).take bits) := by
    have hlength : (Bits.ofBytes octets.bytes).length = 8 * n := by
      rw [Bits.length_ofBytes, octets.length_bytes]
    rw [← Bits.toNat_shiftRight, hlength, Bits.toNat_ofBytes, leadingBits, Octets.toNat]
  rw [hleading, hleading, Bits.toNat_inj]
  simp [Bits.length_ofBytes]

theorem contains_iff {network : Network} {ip : Ip} : network.contains ip ↔ network.Covers ip := by
  cases network with
  | v4 network bits =>
      cases ip with
      | v4 address =>
          rw [contains, Covers, decide_eq_true_eq]
          exact leadingBits_eq_iff network.octets address.octets bits
      | v6 address => simp [contains, Covers]
  | v6 network bits =>
      cases ip with
      | v4 address => simp [contains, Covers]
      | v6 address =>
          rw [contains, Covers, decide_eq_true_eq]
          exact leadingBits_eq_iff network.octets address.octets bits

end Network

end Radius
