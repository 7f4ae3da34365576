-- SUMMARY: Programs that take elements by bare indices, pieces by bare bounds and copies of a fixed length, and the outcome of one that is trapped.
import Radius.Bytes
import Radius.Text.Cut

/-!
# Bare indices

The functions of this library cannot be out of bounds: they take a list apart by its constructors,
and what is not there is not taken. A program on arrays says at which index an element stands,
between which bounds a piece lies and into how many octets it is copied, and it is trapped where
that is wrong. `Raw` programs are written with such operations. One that comes to the outcome of a
function of this library is not trapped.
-/

namespace Radius

/-- Why a program is trapped. -/
inductive Trap where
  /-- An index or a bound outside of what there is. -/
  | outOfRange
  /-- A copy of another length than there is room for. -/
  | wrongLength
  /-- A text that is cut outside of its ends or inside a character. -/
  | insideCharacter
deriving DecidableEq, Repr

/-- What a program with bare indices comes to. -/
inductive Raw (ε α : Type) where
  | done (a : α)
  /-- A fault that the program provides for. -/
  | failed (fault : ε)
  | trapped (trap : Trap)

namespace Raw

variable {ε α β : Type}

/-! ## Programs -/

protected def bind : Raw ε α → (α → Raw ε β) → Raw ε β
  | .done a,       next => next a
  | .failed fault, _    => .failed fault
  | .trapped trap, _    => .trapped trap

instance : Monad (Raw ε) where
  pure := .done
  bind := Raw.bind

@[simp] theorem pure_eq_done (a : α) : (pure a : Raw ε α) = .done a := rfl

@[simp] theorem done_bind (a : α) (next : α → Raw ε β) : (done a >>= next) = next a := rfl

@[simp] theorem failed_bind (fault : ε) (next : α → Raw ε β) :
    (failed fault >>= next) = failed fault := rfl

/-- A computation that has no bare indices. -/
def ofExcept : Except ε α → Raw ε α
  | .ok a        => .done a
  | .error fault => .failed fault

@[simp] theorem ofExcept_ok (a : α) : (ofExcept (.ok a) : Raw ε α) = .done a := rfl

@[simp] theorem ofExcept_error (fault : ε) : (ofExcept (.error fault) : Raw ε α) = .failed fault := rfl

/-- A part that is not trapped, and a rest that is not trapped after it. -/
theorem ofExcept_bind {outcome : Except ε α} {next : α → Raw ε β} {after : α → Except ε β}
    (hnext : ∀ a, outcome = .ok a → next a = ofExcept (after a)) :
    (ofExcept outcome >>= next) = ofExcept (outcome.bind after) := by
  cases outcome with
  | error fault => rfl
  | ok a => exact hnext a rfl

theorem ofExcept_map (outcome : Except ε α) (f : α → β) :
    (ofExcept outcome >>= fun a => pure (f a)) = ofExcept (outcome.map f) := by
  cases outcome <;> rfl

/-- Go on behind a fault that a program provides for; there is no going on behind a trap. -/
def attempt {ε' : Type} : Raw ε α → Raw ε' (Except ε α)
  | .done a       => .done (.ok a)
  | .failed fault => .done (.error fault)
  | .trapped trap => .trapped trap

@[simp] theorem attempt_ofExcept {ε' : Type} (outcome : Except ε α) :
    (attempt (ofExcept outcome) : Raw ε' (Except ε α)) = .done outcome := by
  cases outcome <;> rfl

/-! ## Indices and bounds -/

/-- The element at an index. -/
def item (items : List α) (index : Nat) : Raw ε α :=
  match items[index]? with
  | some a => .done a
  | none   => .trapped .outOfRange

/-- The elements from one bound up to another. -/
def slice (items : List α) (first last : Nat) : Raw ε (List α) :=
  if first ≤ last ∧ last ≤ items.length then .done ((items.take last).drop first)
  else .trapped .outOfRange

/-- The elements up to a bound. -/
def sliceTo (items : List α) (last : Nat) : Raw ε (List α) := slice items 0 last

/-- The elements from a bound on. -/
def sliceFrom (items : List α) (first : Nat) : Raw ε (List α) := slice items first items.length

theorem item_of_getElem? {items : List α} {index : Nat} {a : α} (h : items[index]? = some a) :
    (item items index : Raw ε α) = .done a := by
  rw [item, h]

theorem slice_of_le {items : List α} {first last : Nat} (hfirst : first ≤ last)
    (hlast : last ≤ items.length) :
    (slice items first last : Raw ε (List α)) = .done ((items.take last).drop first) :=
  if_pos ⟨hfirst, hlast⟩

theorem sliceTo_of_le {items : List α} {last : Nat} (h : last ≤ items.length) :
    (sliceTo items last : Raw ε (List α)) = .done (items.take last) :=
  slice_of_le (Nat.zero_le last) h

theorem sliceFrom_of_le {items : List α} {first : Nat} (h : first ≤ items.length) :
    (sliceFrom items first : Raw ε (List α)) = .done (items.drop first) := by
  rw [sliceFrom, slice_of_le h (Nat.le_refl _), List.take_length]

/-! ## Copies -/

/-- A copy into exactly `n` octets. -/
def copy (n : Nat) (bytes : Bytes) : Raw ε (Octets n) :=
  match Octets.ofBytes? n bytes with
  | some exact => .done exact
  | none       => .trapped .wrongLength

theorem copy_of_length {n : Nat} {bytes : Bytes} (h : bytes.length = n) :
    (copy n bytes : Raw ε (Octets n)) = .done ⟨bytes, h⟩ := by
  rw [copy, Octets.ofBytes?, dif_pos h]

/-- A copy over the first octets of others, up to a bound. -/
def overwrite {n : Nat} (target : Octets n) (last : Nat) (bytes : Bytes) : Raw ε (Octets n) :=
  if hlast : last ≤ n then
    if hbytes : bytes.length = last then .done ⟨bytes ++ target.bytes.drop last, by simp; omega⟩
    else .trapped .wrongLength
  else .trapped .outOfRange

/-- What is copied over zeros has zeros behind it. -/
theorem overwrite_zero {n last : Nat} {bytes : Bytes} (hlast : last ≤ n)
    (hbytes : bytes.length = last) :
    (overwrite (Octets.zero n) last bytes : Raw ε (Octets n)) = .done (Octets.ofPrefix n bytes) := by
  subst hbytes
  have hpadded : (Bytes.padTo n bytes).length ≤ n := by
    simp [Bytes.padTo]
    omega
  rw [overwrite, dif_pos hlast, dif_pos rfl, done.injEq]
  apply Octets.ext
  change bytes ++ (List.replicate n 0).drop bytes.length = (Bytes.padTo n bytes).take n
  rw [List.take_of_length_le hpadded, Bytes.padTo, List.drop_replicate]

/-! ## Texts -/

/-- A piece of a text between places that are counted in octets. -/
def cut (text : List Char) (first last : Nat) : Raw ε (List Char) :=
  match Cut.between? first last text with
  | some piece => .done piece
  | none       => .trapped .insideCharacter

theorem cut_append (front piece rest : List Char) :
    (cut (front ++ (piece ++ rest)) (Cut.size front) (Cut.size front + Cut.size piece) :
      Raw ε (List Char)) = .done piece := by
  rw [cut, Cut.between?, Cut.drop?_size, Option.bind_some, Nat.add_sub_cancel_left, Cut.take?_size]

end Raw
end Radius
