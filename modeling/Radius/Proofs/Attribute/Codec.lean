-- SUMMARY: Splitting an attribute list accepts exactly the octets that encoding a canonical list produces.
import Radius.Proofs.Attribute.Octets
import Radius.Proofs.Outcome

/-!
# The attribute codec

Records are split off the front of a byte string and read one by one, at both levels:
the attributes of a packet and the sub-attributes of a container. `Reads` says what
the two levels have in common, and `Reads.decodeEach_eq_ok_iff` is the one induction
over the records. Main result: decoding gives a list exactly when the list is canonical
and encodes to the bytes that were decoded.
-/

namespace Radius

/-! ## One record -/

@[simp] theorem Attribute.record_inj {type type' : UInt8} {value value' : Bytes} :
    record type value = record type' value' ↔ type = type' ∧ value = value' := by
  constructor
  · intro h
    simp only [record, List.cons.injEq] at h
    exact ⟨h.1, h.2.2⟩
  · rintro ⟨rfl, rfl⟩
    rfl

/-- A record is split off exactly where one stands whose length fits the length octet. -/
theorem Split.ofBytes_eq_ok_iff {bytes : Bytes} {split : Split} :
    Split.ofBytes bytes = .ok split ↔
      split.value.length ≤ 253 ∧ bytes = Attribute.record split.type split.value ++ split.rest := by
  constructor
  · intro h
    unfold ofBytes at h
    split at h
    case h_1 => cases h
    case h_2 => cases h
    rename_i type length body
    have hlength := length.toNat_lt
    dsimp only at h
    split at h
    · cases h
    · rename_i hheader
      split at h
      · cases h
      · rename_i hcut
        cases h
        simp only [Attribute.headerLength, List.length_take] at hheader hcut ⊢
        have hvalue : min (length.toNat - 2) body.length = length.toNat - 2 := by omega
        have htotal : 2 + (length.toNat - 2) = length.toNat := by omega
        refine ⟨by omega, ?_⟩
        simp only [Attribute.record, Attribute.headerLength, List.length_take, hvalue, htotal]
        simp
  · obtain ⟨type, value, rest⟩ := split
    rintro ⟨hvalue, rfl⟩
    dsimp only at hvalue ⊢
    have hlength : (UInt8.ofNat (2 + value.length)).toNat = 2 + value.length :=
      UInt8.toNat_ofNat_of_lt' (by simp only [UInt8.size]; omega)
    simp only [Attribute.record, Attribute.headerLength, List.cons_append, ofBytes, hlength,
      Nat.add_sub_cancel_left, List.take_left, List.drop_left]
    rw [if_neg (by omega), if_neg (by omega)]

section

variable {α : Type} {read : UInt8 → Bytes → Except Malformed α}

@[simp] theorem decodeEach_nil : decodeEach read [] = .ok [] := by
  rw [decodeEach]

theorem decodeEach_of_fault {bytes : Bytes} {fault : Malformed} (hne : bytes ≠ [])
    (h : Split.ofBytes bytes = .error fault) : decodeEach read bytes = .error fault := by
  obtain ⟨octet, octets, rfl⟩ := List.exists_cons_of_ne_nil hne
  rw [decodeEach]
  split
  · rename_i hsplit
    rw [h] at hsplit
    cases hsplit
    rfl
  · rename_i hsplit
    rw [h] at hsplit
    cases hsplit

theorem decodeEach_of_split {bytes : Bytes} {split : Split} (h : Split.ofBytes bytes = .ok split) :
    decodeEach read bytes =
      (read split.type split.value).bind (fun first =>
        (decodeEach read split.rest).map (first :: ·)) := by
  cases bytes with
  | nil => cases h
  | cons octet octets =>
      rw [decodeEach]
      split
      · rename_i hsplit
        rw [h] at hsplit
        cases hsplit
      · rename_i hsplit
        rw [h] at hsplit
        cases hsplit
        cases read split.type split.value with
        | error fault => rfl
        | ok first =>
            simp only [Except.bind]
            cases decodeEach read split.rest <;> rfl

/-- A byte string that holds something starts with a record, which is read before the rest. -/
theorem decodeEach_eq_ok_of_ne_nil {bytes : Bytes} {values : List α} (hne : bytes ≠ [])
    (h : decodeEach read bytes = .ok values) :
    ∃ split first later, Split.ofBytes bytes = .ok split ∧
      read split.type split.value = .ok first ∧ decodeEach read split.rest = .ok later ∧
      values = first :: later := by
  cases hsplit : Split.ofBytes bytes with
  | error fault =>
      rw [decodeEach_of_fault hne hsplit] at h
      cases h
  | ok split =>
      rw [decodeEach_of_split hsplit, Except.bind_eq_ok_iff] at h
      obtain ⟨first, hread, h⟩ := h
      obtain ⟨later, hlater, rfl⟩ := Except.map_eq_ok_iff.mp h
      exact ⟨split, first, later, rfl, hread, hlater, rfl⟩

end

/-! ## Records in a row -/

/-- Reading a type and a value gives the good things whose octets are the record of the two. -/
structure Reads {α : Type} (read : UInt8 → Bytes → Except Malformed α) (good : α → Prop)
    (octets : α → Bytes) : Prop where
  exists_record {a : α} : good a →
    ∃ type value, value.length ≤ 253 ∧ octets a = Attribute.record type value
  read_eq_ok_iff {type : UInt8} {value : Bytes} {a : α} : value.length ≤ 253 →
    (read type value = .ok a ↔ good a ∧ octets a = Attribute.record type value)

namespace Reads

variable {α : Type} {read : UInt8 → Bytes → Except Malformed α} {good : α → Prop}
  {octets : α → Bytes}

/-- The octets of good things in a row are read back one by one. -/
theorem decodeEach_flatMap (hr : Reads read good octets) {values : List α}
    (h : ∀ a ∈ values, good a) : decodeEach read (values.flatMap octets) = .ok values := by
  induction values with
  | nil => exact decodeEach_nil
  | cons a values ih =>
      have hgood := h a (by simp)
      obtain ⟨type, value, hvalue, hrecord⟩ := hr.exists_record hgood
      have hsplit : Split.ofBytes ((a :: values).flatMap octets) =
          .ok ⟨type, value, values.flatMap octets⟩ := by
        rw [Split.ofBytes_eq_ok_iff, List.flatMap_cons, hrecord]
        exact ⟨hvalue, rfl⟩
      have hread : read type value = .ok a := (hr.read_eq_ok_iff hvalue).mpr ⟨hgood, hrecord⟩
      rw [decodeEach_of_split hsplit, hread, ih (fun later hlater => h later (by simp [hlater]))]
      rfl

/-- What is read one by one is good, and its octets in a row are what was read. -/
theorem eq_flatMap_of_decodeEach (hr : Reads read good octets) {bytes : Bytes} {values : List α}
    (h : decodeEach read bytes = .ok values) :
    (∀ a ∈ values, good a) ∧ bytes = values.flatMap octets := by
  -- Each record is shorter than what it is split off from, so the induction is on the length.
  induction hlength : bytes.length using Nat.strongRecOn generalizing bytes values with
  | _ length ih =>
      by_cases hne : bytes = []
      · subst hne
        rw [decodeEach_nil] at h
        cases h
        simp
      · obtain ⟨split, first, later, hsplit, hread, hlater, rfl⟩ :=
          decodeEach_eq_ok_of_ne_nil hne h
        have hshorter := Split.length_rest_lt hsplit
        obtain ⟨hvalue, hbytes⟩ := Split.ofBytes_eq_ok_iff.mp hsplit
        obtain ⟨hgood, hrecord⟩ := (hr.read_eq_ok_iff hvalue).mp hread
        obtain ⟨hgoods, hrest⟩ := ih _ (hlength ▸ hshorter) hlater rfl
        refine ⟨?_, ?_⟩
        · intro a ha
          cases ha with
          | head => exact hgood
          | tail _ ha => exact hgoods a ha
        · rw [List.flatMap_cons, hrecord, ← hrest, hbytes]

theorem decodeEach_eq_ok_iff (hr : Reads read good octets) {bytes : Bytes} {values : List α} :
    decodeEach read bytes = .ok values ↔
      (∀ a ∈ values, good a) ∧ bytes = values.flatMap octets := by
  constructor
  · exact hr.eq_flatMap_of_decodeEach
  · rintro ⟨hgood, rfl⟩
    exact hr.decodeEach_flatMap hgood

end Reads

/-! ## The two levels -/

theorem Attribute.reads (vendor : UInt32) :
    Reads (fun type value => .ok (Attribute.ofVendor vendor type value))
      (fun attr => attr.vendor = some vendor ∧ attr.value.length ≤ 253) Attribute.octets where
  exists_record {attr} h := ⟨attr.type, attr.value, h.2, rfl⟩
  read_eq_ok_iff {type value attr} hvalue := by
    obtain ⟨owner, type', value'⟩ := attr
    simp only [Attribute.ofVendor, Attribute.octets, Attribute.record, Except.ok.injEq,
      Attribute.mk.injEq, List.cons.injEq]
    constructor
    · rintro ⟨rfl, rfl, rfl⟩
      exact ⟨⟨rfl, hvalue⟩, rfl, rfl, rfl⟩
    · rintro ⟨⟨rfl, -⟩, rfl, -, rfl⟩
      exact ⟨rfl, rfl, rfl⟩

namespace Container

theorem decode_vendor (vendor : UInt32) (rest : Bytes) :
    Container.decode (Bytes.ofNat 4 vendor.toNat ++ rest) =
      (decodeEach (fun type value => .ok (Attribute.ofVendor vendor type value)) rest).map
        (Container.mk vendor) := by
  have hword := Bytes.ofNat_word vendor
  obtain ⟨a, b, c, d, hoctets⟩ : ∃ a b c d, Bytes.ofNat 4 vendor.toNat = [a, b, c, d] :=
    ⟨_, _, _, _, rfl⟩
  rw [hoctets] at hword ⊢
  simp only [List.cons_append, List.nil_append, decode, hword]

/-- A Vendor-Specific value is read exactly when it is a vendor and sub-attributes that fit. -/
theorem decode_eq_ok_iff {value : Bytes} {container : Container} :
    Container.decode value = .ok container ↔
      (∀ attr ∈ container.attributes,
        attr.vendor = some container.vendor ∧ attr.value.length ≤ 253) ∧
      value = container.valueOctets := by
  constructor
  · intro h
    match value with
    | [] | [_] | [_, _] | [_, _, _] => cases h
    | a :: b :: c :: d :: rest =>
        have hoctets : a :: b :: c :: d :: rest =
            Bytes.ofNat 4 (UInt32.ofNat (Bytes.toNat [a, b, c, d])).toNat ++ rest := by
          rw [Bytes.ofNat_toNat_word rfl]
          rfl
        generalize UInt32.ofNat (Bytes.toNat [a, b, c, d]) = vendor at hoctets
        rw [hoctets, decode_vendor, Except.map_eq_ok_iff] at h
        obtain ⟨attributes, hread, rfl⟩ := h
        obtain ⟨hgood, hrest⟩ := (Attribute.reads vendor).decodeEach_eq_ok_iff.mp hread
        exact ⟨hgood, by rw [hoctets, hrest, valueOctets]⟩
  · obtain ⟨vendor, attributes⟩ := container
    rintro ⟨hgood, rfl⟩
    rw [valueOctets, decode_vendor, (Attribute.reads vendor).decodeEach_flatMap hgood]
    rfl

end Container

namespace PacketAttribute

theorem Canonical.encodedLength_le {attr : PacketAttribute} (h : attr.Canonical) :
    attr.encodedLength ≤ Attribute.maxLength := by
  cases attr with
  | standard attr =>
      have hvalue := h.2.2
      simp only [encodedLength, Attribute.encodedLength, Attribute.headerLength, Attribute.maxLength]
      omega
  | container group => exact h.2

theorem decode_eq_standard_iff {type : UInt8} {value : Bytes} {attr : Attribute}
    (hvalue : value.length ≤ 253) :
    decode type value = .ok (.standard attr) ↔
      (standard attr).Canonical ∧ attr.octets = Attribute.record type value := by
  obtain ⟨vendor, type', value'⟩ := attr
  simp only [decode, Canonical, Attribute.octets, Attribute.record_inj]
  by_cases htype : type = AttributeType.vendorSpecific
  · rw [if_pos htype]
    constructor
    · intro h
      obtain ⟨group, -, hgroup⟩ := Except.map_eq_ok_iff.mp h
      cases hgroup
    · rintro ⟨⟨-, hne, -⟩, rfl, -⟩
      exact absurd htype hne
  · rw [if_neg htype, Attribute.standard]
    constructor
    · intro h
      cases h
      exact ⟨⟨rfl, htype, hvalue⟩, rfl, rfl⟩
    · rintro ⟨⟨rfl, -, -⟩, rfl, rfl⟩
      rfl

theorem decode_eq_container_iff {type : UInt8} {value : Bytes} {group : Container}
    (hvalue : value.length ≤ 253) :
    decode type value = .ok (.container group) ↔
      (container group).Canonical ∧ group.octets = Attribute.record type value := by
  simp only [decode, Container.octets, Attribute.record_inj]
  by_cases htype : type = AttributeType.vendorSpecific
  · subst htype
    rw [if_pos rfl]
    constructor
    · intro h
      obtain ⟨group', hread, hgroup⟩ := Except.map_eq_ok_iff.mp h
      cases hgroup
      obtain ⟨hgood, rfl⟩ := Container.decode_eq_ok_iff.mp hread
      refine ⟨⟨fun attr hattr => (hgood attr hattr).1, ?_⟩, rfl, rfl⟩
      rw [Container.encodedLength_eq, Attribute.headerLength]
      omega
    · rintro ⟨⟨hvendor, hfits⟩, -, rfl⟩
      have hgood : ∀ attr ∈ group.attributes,
          attr.vendor = some group.vendor ∧ attr.value.length ≤ 253 := by
        intro attr hattr
        have hlt := Container.encodedLength_lt_of_mem hattr
        rw [Attribute.encodedLength, Attribute.headerLength] at hlt
        exact ⟨hvendor attr hattr, by omega⟩
      rw [Container.decode_eq_ok_iff.mpr ⟨hgood, rfl⟩]
      rfl
  · rw [if_neg htype]
    constructor
    · intro h
      cases h
    · rintro ⟨-, rfl, -⟩
      exact absurd rfl htype

/-- The attributes of a packet are read as the canonical ones. -/
theorem reads : Reads PacketAttribute.decode Canonical octets where
  exists_record {attr} h := by
    have hfits := h.encodedLength_le
    cases attr with
    | standard attr => exact ⟨attr.type, attr.value, h.2.2, rfl⟩
    | container group =>
        refine ⟨AttributeType.vendorSpecific, group.valueOctets, ?_, rfl⟩
        rw [encodedLength, Container.encodedLength_eq, Attribute.headerLength,
          Attribute.maxLength] at hfits
        omega
  read_eq_ok_iff {type value attr} hvalue := by
    cases attr with
    | standard attr => exact decode_eq_standard_iff hvalue
    | container group => exact decode_eq_container_iff hvalue

end PacketAttribute

/-! ## Attribute lists -/

/-- What is decoded is a canonical list, and nothing but its octets. -/
theorem decodeAttributes_eq_ok_iff {bytes : Bytes} {attributes : List PacketAttribute} :
    decodeAttributes bytes = .ok attributes ↔
      (∀ attr ∈ attributes, attr.Canonical) ∧
        bytes = attributes.flatMap PacketAttribute.octets := by
  rw [← PacketAttribute.reads.decodeEach_eq_ok_iff, decodeAttributes]
  cases decodeEach PacketAttribute.decode bytes with
  | error fault => simp
  | ok attributes' => simp

/-- Decoding accepts exactly the byte strings that canonical lists encode to, each as the list it
is the encoding of, and refuses every other byte string as malformed. -/
theorem decodeAttributes_accepts_encodings (bytes : Bytes) :
    (∀ attributes, decodeAttributes bytes = .ok attributes ↔
      (∀ attr ∈ attributes, attr.Canonical) ∧ PacketAttribute.encodeList attributes = .ok bytes) ∧
    ((∃ fault, decodeAttributes bytes = .error (.malformedAttribute fault)) ↔
      ¬ ∃ attributes, (∀ attr ∈ attributes, attr.Canonical) ∧
        PacketAttribute.encodeList attributes = .ok bytes) := by
  have hiff : ∀ attributes, decodeAttributes bytes = .ok attributes ↔
      (∀ attr ∈ attributes, attr.Canonical) ∧
        PacketAttribute.encodeList attributes = .ok bytes := by
    intro attributes
    rw [decodeAttributes_eq_ok_iff, PacketAttribute.encodeList_eq_ok_iff]
    constructor
    · rintro ⟨hcanonical, hbytes⟩
      exact ⟨hcanonical, fun attr hattr => (hcanonical attr hattr).encodedLength_le, hbytes⟩
    · rintro ⟨hcanonical, -, hbytes⟩
      exact ⟨hcanonical, hbytes⟩
  refine ⟨hiff, ?_⟩
  simp only [← hiff]
  rw [decodeAttributes]
  cases decodeEach PacketAttribute.decode bytes with
  | error fault => simp
  | ok attributes => simp

-- Inside a container the type of containers is a type like any other, and a value may be empty.
example : decodeAttributes [26, 8, 0, 0, 0, 9, 26, 2] =
    .ok [.container ⟨9, [⟨some 9, 26, []⟩]⟩] := by cbv

end Radius
