-- SUMMARY: Taking datagrams apart and checking them by indices and slices: no datagram traps it, and it comes to what decoding comes to.
import Radius.Packet.Datagram
import Radius.Proofs.Attribute.Codec
import Radius.Proofs.Packet.Frame
import Radius.Proofs.Raw.Basic

/-!
# Datagrams by slices

A datagram is checked for its lengths first, and after that every part of it is taken by its
place. The length that it declares is at least that of a header, so the parts of the header are
there, and an attribute is split off only if the length that it declares is.
-/

namespace Radius.Raw

/-! ## Attributes -/

/-- Split one attribute off the front of a byte string. -/
def splitFront (data : Bytes) : Raw Malformed Split := do
  if data.length < Attribute.headerLength then .failed (.headerCut data.length)
  else
    let length ← item data 1
    if length.toNat < Attribute.headerLength then .failed (.lengthTooSmall length.toNat)
    else if data.length < length.toNat then
      .failed (.valueCut (← item data 0) length.toNat data.length)
    else
      return ⟨← item data 0, ← slice data 2 length.toNat, ← sliceFrom data length.toNat⟩

theorem splitFront_eq (data : Bytes) : splitFront data = ofExcept (Split.ofBytes data) := by
  match data with
  | [] => rfl
  | [_] => rfl
  | type :: length :: body =>
      have hshort : ¬ (type :: length :: body).length < Attribute.headerLength := by
        simp [Attribute.headerLength]
      unfold splitFront Split.ofBytes
      rw [if_neg hshort, item_of_getElem? rfl, done_bind]
      dsimp only
      split
      · rfl
      · rename_i hsmall
        rw [Nat.not_lt, Attribute.headerLength] at hsmall
        obtain ⟨count, hcount⟩ := Nat.exists_eq_add_of_le' hsmall
        simp only [hcount, Nat.add_sub_cancel, List.length_cons, List.length_take]
        by_cases hcut : body.length < count
        · rw [if_pos (by omega), if_pos (by omega), item_of_getElem? rfl, done_bind,
            Nat.min_eq_right (by omega)]
          rfl
        · rw [if_neg (by omega), if_neg (by omega), item_of_getElem? rfl, done_bind,
            slice_of_le (by omega) (by simp; omega), done_bind, sliceFrom_of_le (by simp; omega),
            done_bind]
          rfl

theorem length_rest_lt {data : Bytes} {split : Split} (h : splitFront data = .done split) :
    split.rest.length < data.length := by
  rw [splitFront_eq] at h
  cases hsplit : Split.ofBytes data with
  | error fault =>
      rw [hsplit] at h
      cases h
  | ok found =>
      rw [hsplit] at h
      cases h
      exact Split.length_rest_lt hsplit

/-- Split a byte string into attributes, each read before the next is split off. -/
def splitEach {α : Type} (read : UInt8 → Bytes → Raw Malformed α) (data : Bytes) :
    Raw Malformed (List α) :=
  if data.isEmpty then return []
  else
    match h : splitFront data with
    | .failed fault => .failed fault
    | .trapped trap => .trapped trap
    | .done split   => do
        have := length_rest_lt h
        let first ← read split.type split.value
        return first :: (← splitEach read split.rest)
termination_by data.length

section

variable {α : Type} {read : UInt8 → Bytes → Raw Malformed α} {data : Bytes}

theorem splitEach_nil : splitEach read [] = .done [] := by
  rw [splitEach]
  rfl

theorem splitEach_of_failed {fault : Malformed} (hne : data ≠ [])
    (h : splitFront data = .failed fault) : splitEach read data = .failed fault := by
  rw [splitEach, if_neg fun hempty => hne (List.isEmpty_iff.mp hempty)]
  split <;> rename_i hfront
  · rw [h] at hfront
    cases hfront
    rfl
  · rw [h] at hfront
    cases hfront
  · rw [h] at hfront
    cases hfront

theorem splitEach_of_done {split : Split} (h : splitFront data = .done split) :
    splitEach read data =
      read split.type split.value >>= fun first =>
        splitEach read split.rest >>= fun later => pure (first :: later) := by
  have hne : data ≠ [] := by
    rintro rfl
    cases h
  rw [splitEach, if_neg fun hempty => hne (List.isEmpty_iff.mp hempty)]
  split <;> rename_i hfront
  · rw [h] at hfront
    cases hfront
  · rw [h] at hfront
    cases hfront
  · rw [h] at hfront
    cases hfront
    rfl

/-- Attributes are split off as they are in decoding, if each is read as it is there. -/
theorem splitEach_eq {decode : UInt8 → Bytes → Except Malformed α}
    (hread : ∀ type value, read type value = ofExcept (decode type value)) (data : Bytes) :
    splitEach read data = ofExcept (decodeEach decode data) := by
  induction hlength : data.length using Nat.strongRecOn generalizing data with
  | ind length ih =>
      subst hlength
      by_cases hempty : data = []
      · rw [hempty, splitEach_nil, decodeEach_nil]
        rfl
      cases hsplit : Split.ofBytes data with
      | error fault =>
          have hfront : splitFront data = .failed fault := by rw [splitFront_eq, hsplit]; rfl
          rw [splitEach_of_failed hempty hfront, decodeEach_of_fault hempty hsplit]
          rfl
      | ok split =>
          have hfront : splitFront data = .done split := by rw [splitFront_eq, hsplit]; rfl
          rw [splitEach_of_done hfront, decodeEach_of_split hsplit, hread]
          refine ofExcept_bind fun first _ => ?_
          rw [ih _ (length_rest_lt hfront) _ rfl]
          exact ofExcept_map _ _

end

/-- The container that a Vendor-Specific value holds; the four octets of its vendor are taken only
if they are there. -/
def container : Bytes → Raw Malformed Container
  | a :: b :: c :: d :: rest => do
      let vendor := UInt32.ofNat (Bytes.toNat [a, b, c, d])
      let attributes ← splitEach (fun type value => .done (Attribute.ofVendor vendor type value)) rest
      return ⟨vendor, attributes⟩
  | bytes => .failed (.vendorCut bytes.length)

theorem container_eq (value : Bytes) : container value = ofExcept (Container.decode value) := by
  match value with
  | [] | [_] | [_, _] | [_, _, _] => rfl
  | a :: b :: c :: d :: rest =>
      simp only [container, Container.decode]
      have hread : ∀ type value,
          (.done (Attribute.ofVendor (UInt32.ofNat (Bytes.toNat [a, b, c, d])) type value) :
            Raw Malformed Attribute) =
          ofExcept (.ok (Attribute.ofVendor (UInt32.ofNat (Bytes.toNat [a, b, c, d])) type value)) :=
        fun _ _ => rfl
      rw [splitEach_eq hread rest]
      exact ofExcept_map _ _

def attributeOf (type : UInt8) (value : Bytes) : Raw Malformed PacketAttribute :=
  if type = AttributeType.vendorSpecific then do return .container (← container value)
  else .done (.standard (Attribute.standard type value))

theorem attributeOf_eq (type : UInt8) (value : Bytes) :
    attributeOf type value = ofExcept (PacketAttribute.decode type value) := by
  unfold attributeOf PacketAttribute.decode
  split
  · rw [container_eq]
    exact ofExcept_map _ _
  · rfl

/-- The attribute list that a byte string holds. -/
def attributes (data : Bytes) : Raw PacketError (List PacketAttribute) :=
  match splitEach attributeOf data with
  | .done attributes => .done attributes
  | .failed fault    => .failed (.malformedAttribute fault)
  | .trapped trap    => .trapped trap

theorem attributes_eq (data : Bytes) : attributes data = ofExcept (decodeAttributes data) := by
  rw [attributes, decodeAttributes, splitEach_eq attributeOf_eq]
  cases decodeEach PacketAttribute.decode data <;> rfl

/-! ## Frames -/

/-- The frame of the octets up to the declared length. -/
def parts (bytes : Bytes) : Raw PacketError Frame := do
  let authenticator ← copy 16 (← slice bytes 4 packetHeaderLength)
  let attributes ← attributes (← sliceFrom bytes packetHeaderLength)
  return ⟨← item bytes 0, ← item bytes 1, authenticator, attributes, bytes⟩

/-- Take a datagram apart. -/
def frame (data : Bytes) : Raw PacketError Frame := do
  if data.length < packetHeaderLength then .failed (.invalidLength data.length)
  else
    let length := Bytes.toNat [← item data 2, ← item data 3]
    if length < packetHeaderLength ∨ Packet.maxLength < length then .failed (.invalidLength length)
    else if data.length < length then .failed (.invalidLength data.length)
    else parts (← sliceTo data length)

def header (frame : Frame) : Raw PacketError Bytes := sliceTo frame.bytes 4

def attributeBytes (frame : Frame) : Raw PacketError Bytes := sliceFrom frame.bytes packetHeaderLength

theorem parts_eq {bytes : Bytes} {code identifier : UInt8}
    (hlength : packetHeaderLength ≤ bytes.length) (hcode : bytes[0]? = some code)
    (hidentifier : bytes[1]? = some identifier) :
    parts bytes = ofExcept ((decodeAttributes (bytes.drop packetHeaderLength)).map (fun attributes =>
      ⟨code, identifier, Octets.ofPrefix 16 (bytes.drop 4), attributes, bytes⟩)) := by
  have hblock : ((bytes.take packetHeaderLength).drop 4).length = 16 := by
    rw [packetHeaderLength] at hlength ⊢
    simp
    omega
  have hauthenticator : (⟨_, hblock⟩ : Block) = Octets.ofPrefix 16 (bytes.drop 4) := by
    have hrest : 16 ≤ (bytes.drop 4).length := by
      rw [packetHeaderLength] at hlength
      rw [List.length_drop]
      omega
    apply Octets.ext
    rw [Octets.bytes_ofPrefix hrest]
    exact List.drop_take
  unfold parts
  rw [slice_of_le (by decide) hlength, done_bind, copy_of_length hblock, done_bind,
    sliceFrom_of_le hlength, done_bind, attributes_eq, hauthenticator]
  simp only [item_of_getElem? hcode, item_of_getElem? hidentifier, done_bind]
  exact ofExcept_map _ _

theorem frame_eq (data : Bytes) : frame data = ofExcept (Frame.ofBytes data) := by
  unfold frame
  split
  · rename_i hshort
    unfold Frame.ofBytes
    split
    · rw [if_pos hshort]
      rfl
    · rfl
  rename_i hlong
  match data with
  | [] | [_] | [_, _] | [_, _, _] => simp [packetHeaderLength] at hlong
  | code :: identifier :: high :: low :: rest =>
      have hdeclared : Frame.declaredLength (code :: identifier :: high :: low :: rest) =
          Bytes.toNat [high, low] := rfl
      simp only [Frame.ofBytes, hdeclared]
      rw [item_of_getElem? rfl, done_bind, item_of_getElem? rfl, done_bind, if_neg hlong]
      split
      · rfl
      split
      · rfl
      rename_i hlength hcut
      rw [not_or, Nat.not_lt] at hlength
      rw [Nat.not_lt] at hcut
      obtain ⟨count, hcount⟩ : ∃ count, Bytes.toNat [high, low] = count + 2 :=
        Nat.exists_eq_add_of_le' (Nat.le_trans (by decide) hlength.1)
      rw [sliceTo_of_le hcut, done_bind]
      rw [hcount] at hcut hlength ⊢
      exact parts_eq (by rw [List.length_take, Nat.min_eq_left hcut]; exact hlength.1) rfl rfl

/-- The slices of a frame that was taken apart are there. -/
theorem slices_of_frame {data : Bytes} {taken : Frame} (h : Frame.ofBytes data = .ok taken) :
    header taken = .done taken.header ∧ attributeBytes taken = .done taken.attributeBytes := by
  have htaken := Frame.taken_of_ofBytes h
  have hlength : packetHeaderLength ≤ taken.bytes.length := by
    rw [htaken.bytes_eq, List.length_take, Nat.min_eq_left htaken.le_length]
    exact htaken.min_le
  exact ⟨sliceTo_of_le (Nat.le_trans (by decide) hlength), sliceFrom_of_le hlength⟩

/-! ## Authenticators -/

section

variable {ε : Type} (hash : Hash)

/-- Whether an encoded response is signed for a request authenticator. -/
def verifyResponse (response : Bytes) (request : Block) (secret : Bytes) : Raw ε Bool := do
  if response.length < packetHeaderLength then return false
  else
    let expected := Authenticator.response hash (← sliceTo response 4) request
      (← sliceFrom response packetHeaderLength) secret
    return Authenticator.agrees expected (← slice response 4 packetHeaderLength)

/-- Whether an encoded Accounting-Request is signed. -/
def verifyAccounting (request secret : Bytes) : Raw ε Bool := do
  if request.length < packetHeaderLength then return false
  else
    let expected := Authenticator.accounting hash (← sliceTo request 4)
      (← sliceFrom request packetHeaderLength) secret
    return Authenticator.agrees expected (← slice request 4 packetHeaderLength)

/-- A packet that has all of its header has the octets that are signed, and an authenticator. -/
theorem signed_of_le {packet : Bytes} (h : packetHeaderLength ≤ packet.length)
    (digest : Bytes → Bytes → Block) :
    (do
      let expected := digest (← sliceTo packet 4) (← sliceFrom packet packetHeaderLength)
      return Authenticator.agrees expected (← slice packet 4 packetHeaderLength) : Raw ε Bool) =
      .done (Authenticator.agrees (digest (packet.take 4) (packet.drop packetHeaderLength))
        (packet.slice 4 packetHeaderLength)) := by
  rw [sliceTo_of_le (Nat.le_trans (by decide) h), done_bind, sliceFrom_of_le h, done_bind,
    slice_of_le (by decide) h, done_bind]
  rfl

theorem verifyResponse_eq (response : Bytes) (request : Block) (secret : Bytes) :
    (verifyResponse hash response request secret : Raw ε Bool) =
      .done (Authenticator.verifyResponse hash response request secret) := by
  unfold verifyResponse Authenticator.verifyResponse
  split
  · rfl
  · rename_i hlong
    exact signed_of_le (Nat.not_lt.mp hlong)
      (fun header attributes => Authenticator.response hash header request attributes secret)

theorem verifyAccounting_eq (request secret : Bytes) :
    (verifyAccounting hash request secret : Raw ε Bool) =
      .done (Authenticator.verifyAccounting hash request secret) := by
  unfold verifyAccounting Authenticator.verifyAccounting
  split
  · rfl
  · rename_i hlong
    exact signed_of_le (Nat.not_lt.mp hlong)
      (fun header attributes => Authenticator.accounting hash header attributes secret)

end

end Radius.Raw
