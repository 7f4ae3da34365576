-- SUMMARY: A changed datagram, or a changed secret, passes the check of an authenticator only where the digest function collides.
import Radius.Proofs.Packet.Decoding
import Radius.Proofs.Secret.Authenticator

/-!
# Integrity of signed datagrams

A datagram whose authenticator is checked holds the digest of all its other declared
octets, of a block that takes the authenticator's place, and of the secret. `Sealed`
says this of the octets themselves. The header says how long the attributes are, so
two sealed datagrams with the same signed octets are the same up to their declared
length but for the authenticator, which then is the same too. Any other change that
is accepted shows two byte strings with one digest.
-/

namespace Radius

namespace Bytes

/-- Cutting a byte string twice and putting the pieces together again. -/
theorem take_append_slice {first last : Nat} (h : first ≤ last) (bytes : Bytes) :
    bytes.take first ++ bytes.slice first last = bytes.take last := by
  have htake : (bytes.take last).take first = bytes.take first := by
    rw [List.take_take, Nat.min_eq_left h]
  rw [slice, ← htake, List.take_append_drop]

/-- A slice does not see an octet in front of it or behind it. -/
theorem slice_set {first last index : Nat} (h : index < first ∨ last ≤ index) (bytes : Bytes)
    (octet : UInt8) : slice (bytes.set index octet) first last = bytes.slice first last := by
  rw [slice, slice]
  rcases h with hfront | hbehind
  · rw [List.take_set, List.drop_set_of_lt hfront]
  · rw [List.take_set_of_le hbehind]

end Bytes

/-- Two byte strings that a digest function does not tell apart. -/
structure Collision (hash : Hash) (left right : Bytes) : Prop where
  ne : left ≠ right
  hash_eq : hash left = hash right

namespace Frame

/-! ## Sealed datagrams -/

/-- The octets up to the declared length. -/
def declared (datagram : Bytes) : Bytes := datagram.take (declaredLength datagram)

/-- What a datagram is signed over: its header, the block in the authenticator's place, the octets
behind the authenticator up to the declared length, and the secret. -/
def signedOctets (inPlace : Block) (datagram secret : Bytes) : Bytes :=
  Authenticator.signedMessage (datagram.take 4) inPlace
    (datagram.slice packetHeaderLength (declaredLength datagram)) secret

/-- The datagram is as long as it declares, and its authenticator is the digest of the rest. -/
structure Sealed (hash : Hash) (inPlace : Block) (datagram secret : Bytes) : Prop where
  min_le : packetHeaderLength ≤ declaredLength datagram
  le_length : declaredLength datagram ≤ datagram.length
  digest_eq : datagram.slice 4 packetHeaderLength =
    (hash (signedOctets inPlace datagram secret)).bytes

section

variable {hash : Hash} {inPlace : Block} {datagram secret : Bytes} {frame : Frame}
  (h : Frame.ofBytes datagram = .ok frame)
include h

theorem header_eq_take : frame.header = datagram.take 4 := by
  have htaken := taken_of_ofBytes h
  have hmin := htaken.min_le
  rw [packetHeaderLength] at hmin
  rw [header, htaken.bytes_eq, List.take_take, Nat.min_eq_left (by omega)]

theorem attributeBytes_eq_slice :
    frame.attributeBytes = datagram.slice packetHeaderLength (declaredLength datagram) := by
  rw [attributeBytes, (taken_of_ofBytes h).bytes_eq, Bytes.slice]

theorem authenticator_eq_slice : frame.authenticator.bytes = datagram.slice 4 packetHeaderLength := by
  have htaken := taken_of_ofBytes h
  have hmin := htaken.min_le
  have hlength := htaken.le_length
  rw [packetHeaderLength] at hmin
  have hroom : 16 ≤ ((datagram.take (declaredLength datagram)).drop 4).length := by
    rw [List.length_drop, List.length_take]
    omega
  rw [htaken.authenticator_eq, htaken.bytes_eq, Octets.bytes_ofPrefix hroom, Bytes.slice,
    packetHeaderLength, List.take_drop, List.take_take, Nat.min_eq_left (by omega)]

/-- The check of a response is that its datagram is sealed for the authenticator of the request. -/
theorem sealed_of_isSignedResponse (hsigned : frame.isSignedResponse hash inPlace secret) :
    Sealed hash inPlace datagram secret := by
  have htaken := taken_of_ofBytes h
  refine ⟨htaken.min_le, htaken.le_length, ?_⟩
  rw [isSignedResponse, Authenticator.agrees_iff] at hsigned
  rw [← authenticator_eq_slice h, hsigned, header_eq_take h, attributeBytes_eq_slice h]
  rfl

/-- The check of an Accounting-Request is that its datagram is sealed for zeros. -/
theorem sealed_of_isSignedAccounting (hsigned : frame.isSignedAccounting hash secret) :
    Sealed hash (Octets.zero 16) datagram secret := by
  have htaken := taken_of_ofBytes h
  refine ⟨htaken.min_le, htaken.le_length, ?_⟩
  rw [isSignedAccounting, Authenticator.agrees_iff] at hsigned
  rw [← authenticator_eq_slice h, hsigned, header_eq_take h, attributeBytes_eq_slice h]
  rfl

end

/-! ## Two datagrams -/

/-- The declared length stands in the header. -/
theorem declaredLength_eq_of_take {left right : Bytes} (h : left.take 4 = right.take 4) :
    declaredLength left = declaredLength right := by
  rw [declaredLength, declaredLength, Bytes.slice, Bytes.slice, h]

theorem declared_eq {datagram : Bytes} (h : packetHeaderLength ≤ declaredLength datagram) :
    declared datagram = datagram.take 4 ++ datagram.slice 4 packetHeaderLength ++
      datagram.slice packetHeaderLength (declaredLength datagram) := by
  rw [Bytes.take_append_slice (by decide), Bytes.take_append_slice h, declared]

section

variable {hash : Hash} {inPlace : Block} {left right secret : Bytes}

theorem Sealed.length_take (h : Sealed hash inPlace left secret) : (left.take 4).length = 4 := by
  have hmin := h.min_le
  have hlength := h.le_length
  rw [packetHeaderLength] at hmin
  rw [List.length_take]
  omega

/-- Sealed datagrams that agree in their header and behind the authenticator agree in the
authenticator. -/
theorem Sealed.declared_eq_of_signed (hleft : Sealed hash inPlace left secret)
    (hright : Sealed hash inPlace right secret) (hheader : left.take 4 = right.take 4)
    (hrest : left.slice packetHeaderLength (declaredLength left) =
      right.slice packetHeaderLength (declaredLength right)) : declared left = declared right := by
  have hdigest : left.slice 4 packetHeaderLength = right.slice 4 packetHeaderLength := by
    rw [hleft.digest_eq, hright.digest_eq, signedOctets, signedOctets, hheader, hrest]
  rw [declared_eq hleft.min_le, declared_eq hright.min_le, hheader, hdigest, hrest]

/-- Sealed datagrams with the same authenticator collide, unless they are the same. -/
theorem Sealed.collision (hleft : Sealed hash inPlace left secret)
    (hright : Sealed hash inPlace right secret)
    (hauthenticator : left.slice 4 packetHeaderLength = right.slice 4 packetHeaderLength)
    (hne : declared left ≠ declared right) :
    Collision hash (signedOctets inPlace left secret) (signedOctets inPlace right secret) := by
  constructor
  · intro hsigned
    -- The headers have one length, and the secret at the end is the same.
    simp only [signedOctets, Authenticator.signedMessage, List.append_assoc] at hsigned
    obtain ⟨hheader, hbehind⟩ :=
      List.append_inj hsigned (hleft.length_take.trans hright.length_take.symm)
    have hrest := List.append_cancel_right (List.append_cancel_left hbehind)
    exact hne (hleft.declared_eq_of_signed hright hheader hrest)
  · apply Octets.ext
    rw [← hleft.digest_eq, ← hright.digest_eq, hauthenticator]

/-- One datagram that is sealed under two secrets makes them collide. -/
theorem Sealed.collision_of_secrets {datagram other : Bytes}
    (hother : Sealed hash inPlace datagram other) (h : Sealed hash inPlace datagram secret)
    (hne : other ≠ secret) :
    Collision hash (signedOctets inPlace datagram other) (signedOctets inPlace datagram secret) := by
  constructor
  · intro hsigned
    exact hne (List.append_cancel_left hsigned)
  · apply Octets.ext
    rw [← hother.digest_eq, ← h.digest_eq]

/-- Another octet within the declared length makes another declared datagram. -/
theorem declared_set_ne {datagram : Bytes} {index : Nat} {octet : UInt8}
    (hchanged : declaredLength (datagram.set index octet) ≤ datagram.length)
    (hlength : declaredLength datagram ≤ datagram.length) (hindex : index < declaredLength datagram)
    (hne : datagram[index]? ≠ some octet) :
    declared (datagram.set index octet) ≠ declared datagram := by
  intro heq
  rw [declared, declared] at heq
  have hlengths := congrArg List.length heq
  rw [List.length_take, List.length_take, List.length_set] at hlengths
  have hsame : declaredLength (datagram.set index octet) = declaredLength datagram := by omega
  have hoctet := congrArg (·[index]?) heq
  simp only [hsame, List.getElem?_take_of_lt hindex] at hoctet
  rw [List.getElem?_set_self (by omega)] at hoctet
  exact hne hoctet.symm

end

/-! ## What a check protects -/

/-- A check of datagrams under secrets notices every change to this datagram or to its secret, but
for collisions of the digest function: a change of the authenticator alone in any case, a change of
anything else, of any single octet, or of the secret, unless the two signed byte strings collide. -/
structure Protected (hash : Hash) (Accepts : Bytes → Bytes → Prop) (inPlace : Block)
    (datagram secret : Bytes) : Prop where
  authenticator_changed : ∀ changed, declared changed ≠ declared datagram →
    changed.take 4 = datagram.take 4 →
    changed.slice packetHeaderLength (declaredLength datagram) =
      datagram.slice packetHeaderLength (declaredLength datagram) →
    ¬ Accepts changed secret
  signed_changed : ∀ changed, declared changed ≠ declared datagram →
    changed.slice 4 packetHeaderLength = datagram.slice 4 packetHeaderLength →
    Accepts changed secret →
    Collision hash (signedOctets inPlace changed secret) (signedOctets inPlace datagram secret)
  octet_changed : ∀ index octet, index < declaredLength datagram → datagram[index]? ≠ some octet →
    Accepts (datagram.set index octet) secret →
    (index < 4 ∨ packetHeaderLength ≤ index) ∧
      Collision hash (signedOctets inPlace (datagram.set index octet) secret)
        (signedOctets inPlace datagram secret)
  secret_changed : ∀ other, other ≠ secret → Accepts datagram other →
    Collision hash (signedOctets inPlace datagram other) (signedOctets inPlace datagram secret)

/-- A check that accepts sealed datagrams only protects those it accepts. -/
theorem protected_of_sealed {hash : Hash} {Accepts : Bytes → Bytes → Prop} {inPlace : Block}
    (hsealed : ∀ datagram secret, Accepts datagram secret → Sealed hash inPlace datagram secret)
    {datagram secret : Bytes} (haccepted : Accepts datagram secret) :
    Protected hash Accepts inPlace datagram secret := by
  have h := hsealed datagram secret haccepted
  have hauthenticator : ∀ changed, declared changed ≠ declared datagram →
      changed.take 4 = datagram.take 4 →
      changed.slice packetHeaderLength (declaredLength datagram) =
        datagram.slice packetHeaderLength (declaredLength datagram) →
      ¬ Accepts changed secret := by
    intro changed hne hheader hrest hchanged
    rw [← declaredLength_eq_of_take hheader] at hrest
    exact hne ((hsealed _ _ hchanged).declared_eq_of_signed h hheader
      (hrest.trans (by rw [declaredLength_eq_of_take hheader])))
  have hsigned : ∀ changed, declared changed ≠ declared datagram →
      changed.slice 4 packetHeaderLength = datagram.slice 4 packetHeaderLength →
      Accepts changed secret →
      Collision hash (signedOctets inPlace changed secret)
        (signedOctets inPlace datagram secret) :=
    fun changed hne hslice hchanged => (hsealed _ _ hchanged).collision h hslice hne
  refine ⟨hauthenticator, hsigned, ?_, ?_⟩
  · intro index octet hindex hoctet hchanged
    have hlength := (hsealed _ _ hchanged).le_length
    rw [List.length_set] at hlength
    have hne := declared_set_ne hlength h.le_length hindex hoctet
    by_cases hinside : 4 ≤ index ∧ index < packetHeaderLength
    · -- The octet is one of the authenticator, and nothing else has changed.
      refine absurd hchanged (hauthenticator _ hne ?_ ?_)
      · rw [List.take_set_of_le hinside.1]
      · exact Bytes.slice_set (.inl hinside.2) datagram octet
    · have houtside : index < 4 ∨ packetHeaderLength ≤ index := by omega
      exact ⟨houtside, hsigned _ hne (Bytes.slice_set houtside datagram octet) hchanged⟩
  · intro other hne hother
    exact (hsealed _ _ hother).collision_of_secrets h hne

end Frame

namespace Message

/-! ## The two checks -/

/-- A datagram is accepted as a response to a request. -/
def AcceptsResponse (hash : Hash) (request : Packet) (datagram secret : Bytes) : Prop :=
  ∃ message, ofResponseDatagram hash datagram secret request = .ok message

/-- A datagram with the code of an Accounting-Request is accepted as a request. -/
def AcceptsAccounting (hash : Hash) (datagram secret : Bytes) : Prop :=
  datagram.head? = some 4 ∧ ∃ message, ofRequestDatagram hash datagram secret = .ok message

theorem sealed_of_acceptsResponse {hash : Hash} {request : Packet} {authenticator : Block}
    (hauthenticator : request.authenticator = some authenticator) (datagram secret : Bytes)
    (h : AcceptsResponse hash request datagram secret) :
    Frame.Sealed hash authenticator datagram secret := by
  obtain ⟨message, hmessage⟩ := h
  obtain ⟨frame, checked, hframe, -, hchecked, hsigned, -⟩ :=
    ofResponseDatagram_eq_ok_iff.mp hmessage
  rw [hauthenticator, Option.some.injEq] at hchecked
  subst hchecked
  exact Frame.sealed_of_isSignedResponse hframe hsigned

theorem sealed_of_acceptsAccounting {hash : Hash} (datagram secret : Bytes)
    (h : AcceptsAccounting hash datagram secret) :
    Frame.Sealed hash (Octets.zero 16) datagram secret := by
  obtain ⟨hcode, message, hmessage⟩ := h
  obtain ⟨frame, hframe, hsigned, -⟩ := ofRequestDatagram_eq_ok_iff.mp hmessage
  have hheader := congrArg List.head? (Frame.taken_of_ofBytes hframe).header_eq
  rw [List.head?_take, if_neg (by decide), hcode, List.head?_cons, Option.some.injEq] at hheader
  exact Frame.sealed_of_isSignedAccounting hframe (hsigned hheader.symm)

/-- Accepted responses and Accounting-Requests are protected: whatever else is accepted in their
place, under the same secret or another, shows a collision of the digest function. -/
theorem accepted_is_protected (hash : Hash) (datagram secret : Bytes) :
    (∀ request, AcceptsResponse hash request datagram secret →
      ∃ authenticator, request.authenticator = some authenticator ∧
        Frame.Protected hash (AcceptsResponse hash request) authenticator datagram secret) ∧
    (AcceptsAccounting hash datagram secret →
      Frame.Protected hash (AcceptsAccounting hash) (Octets.zero 16) datagram secret) := by
  constructor
  · intro request haccepted
    obtain ⟨message, hmessage⟩ := haccepted
    obtain ⟨-, authenticator, -, -, hauthenticator, -, -⟩ :=
      ofResponseDatagram_eq_ok_iff.mp hmessage
    exact ⟨authenticator, hauthenticator,
      Frame.protected_of_sealed (sealed_of_acceptsResponse hauthenticator) ⟨message, hmessage⟩⟩
  · intro haccepted
    exact Frame.protected_of_sealed sealed_of_acceptsAccounting haccepted

/-- An Accounting-Request that reports the start of a session of the user nemo. -/
def Sample.accountingDatagram : Bytes :=
  [0x04, 0x07, 0x00, 0x20,
    0x44, 0x0a, 0x9d, 0x93, 0xcd, 0x0e, 0xad, 0x82, 0xc4, 0x19, 0x07, 0x6c, 0x76, 0x16, 0xdd, 0x87,
    0x01, 0x06, 0x6e, 0x65, 0x6d, 0x6f, 0x28, 0x06, 0x00, 0x00, 0x00, 0x01]

theorem sample_is_protected :
    (AcceptsResponse Md5.digest Sample.request.packet Sample.responseDatagram Sample.secret ∧
      Frame.Protected Md5.digest (AcceptsResponse Md5.digest Sample.request.packet)
        Sample.authenticator Sample.responseDatagram Sample.secret ∧
      ¬ AcceptsResponse Md5.digest Sample.request.packet (Sample.responseDatagram.set 19 0xb3)
        Sample.secret) ∧
    (AcceptsAccounting Md5.digest Sample.accountingDatagram Sample.secret ∧
      Frame.Protected Md5.digest (AcceptsAccounting Md5.digest) (Octets.zero 16)
        Sample.accountingDatagram Sample.secret ∧
      ¬ AcceptsAccounting Md5.digest Sample.accountingDatagram []) := by
  have hresponse : AcceptsResponse Md5.digest Sample.request.packet Sample.responseDatagram
      Sample.secret := ⟨.generic Sample.response, by decide +kernel⟩
  have haccounting : AcceptsAccounting Md5.digest Sample.accountingDatagram Sample.secret :=
    ⟨rfl, .accounting ⟨.accountingRequest, 7,
      some (Octets.ofPrefix 16 (Sample.accountingDatagram.drop 4)),
      [.standard ⟨none, 1, [0x6e, 0x65, 0x6d, 0x6f]⟩, .standard ⟨none, 40, [0, 0, 0, 1]⟩]⟩,
      by decide +kernel⟩
  obtain ⟨authenticator, hauthenticator, hprotected⟩ :=
    (accepted_is_protected Md5.digest Sample.responseDatagram Sample.secret).1 _ hresponse
  cases hauthenticator
  have hprotected' :=
    (accepted_is_protected Md5.digest Sample.accountingDatagram Sample.secret).2 haccounting
  refine ⟨⟨hresponse, hprotected, fun hchanged => ?_⟩, haccounting, hprotected', fun hother => ?_⟩
  · -- The octet is the last one of the authenticator.
    have houtside := (hprotected.octet_changed 19 0xb3 (by decide) (by decide) hchanged).1
    exact absurd houtside (by decide)
  · have hdigests := (hprotected'.secret_changed [] (by decide) hother).hash_eq
    exact absurd hdigests (by decide +kernel)

end Message
end Radius
