-- SUMMARY: Where an added attribute goes among the containers, what it leaves as it was, and that no container outgrows its length octet.
import Mathlib.Data.List.Perm.Basic
import Radius.Proofs.Packet.Octets

/-!
# Grouping by vendor

An attribute that is added goes into one place of the attribute list: behind it, or into
the last container of its vendor that has room. `Added` says which, and everything else
about adding follows from its three cases: nothing else in the list changes, what is there
and the new attribute make up what is there afterwards, and a packet whose attributes fit
the length octet keeps them so.
-/

namespace Radius

/-! ## Views of an attribute list -/

namespace Packet

/-- The standard attributes, in order. -/
def standards (attributes : List PacketAttribute) : List Attribute :=
  attributes.filterMap (fun
    | .standard attr => some attr
    | .container _   => none)

/-- The containers, in order. -/
def containers (attributes : List PacketAttribute) : List Container :=
  attributes.filterMap (fun
    | .standard _      => none
    | .container group => some group)

/-- The containers of a vendor, in order. -/
def containersOf (vendor : UInt32) (attributes : List PacketAttribute) : List Container :=
  (containers attributes).filter (·.vendor = vendor)

section

variable (attr : Attribute) (group : Container) (vendor : UInt32)
  (front back : List PacketAttribute)

@[simp] theorem standards_nil : standards [] = [] := rfl

@[simp] theorem standards_standard :
    standards (.standard attr :: back) = attr :: standards back := rfl

@[simp] theorem standards_container : standards (.container group :: back) = standards back := rfl

@[simp] theorem standards_append : standards (front ++ back) = standards front ++ standards back :=
  List.filterMap_append

@[simp] theorem containers_nil : containers [] = [] := rfl

@[simp] theorem containers_standard : containers (.standard attr :: back) = containers back := rfl

@[simp] theorem containers_container :
    containers (.container group :: back) = group :: containers back := rfl

@[simp] theorem containers_append :
    containers (front ++ back) = containers front ++ containers back :=
  List.filterMap_append

end

/-- The attributes of a vendor are those in its containers. -/
theorem vendorAttributes_eq (packet : Packet) (vendor : UInt32) :
    packet.vendorAttributes vendor =
      (containersOf vendor packet.attributes).flatMap (·.attributes) := by
  unfold vendorAttributes containersOf
  induction packet.attributes with
  | nil => rfl
  | cons first later ih =>
      rw [List.flatMap_cons, ih]
      cases first with
      | standard attr => simp
      | container group =>
          by_cases hvendor : group.vendor = vendor
          · simp [hvendor]
          · simp [hvendor]

end Packet

/-! ## Where an attribute goes -/

namespace Container

/-- The attribute is one of the container's vendor, and there are octets left for it. -/
def Takes (group : Container) (attr : Attribute) : Prop :=
  attr.vendor = some group.vendor ∧ group.hasRoom attr.encodedLength

theorem hasRoom_iff {group : Container} {needed : Nat} :
    group.hasRoom needed ↔ group.encodedLength + needed ≤ 255 :=
  decide_eq_true_iff

/-- An attribute of the container's vendor is appended as it is. -/
theorem add_of_vendor {group : Container} {attr : Attribute}
    (h : attr.vendor = some group.vendor) :
    group.add attr = { group with attributes := group.attributes ++ [attr] } := by
  rw [add, ← h]

theorem encodedLength_add (group : Container) (attr : Attribute) :
    (group.add attr).encodedLength = group.encodedLength + attr.encodedLength := by
  rw [encodedLength_eq, encodedLength_eq, valueOctets, valueOctets, add, List.flatMap_append,
    List.flatMap_singleton]
  simp only [List.length_append, Attribute.length_octets, Attribute.encodedLength]
  omega

end Container

namespace Packet

/-- No container takes the attribute in. -/
def Full (attr : Attribute) (attributes : List PacketAttribute) : Prop :=
  ∀ group ∈ containers attributes, ¬ group.Takes attr

/-- An attribute list before and after an attribute is added: a standard attribute stands behind the
list, one of a vendor is in the last container that takes it, or behind the list in a container
of its own. -/
inductive Added (attr : Attribute) : (before after : List PacketAttribute) → Prop
  | standard {before : List PacketAttribute} (hvendor : attr.vendor = none) :
      Added attr before (before ++ [.standard attr])
  | opened {before : List PacketAttribute} {vendor : UInt32} (hvendor : attr.vendor = some vendor)
      (hfull : Full attr before) :
      Added attr before (before ++ [.container ⟨vendor, [attr]⟩])
  | joined {front back : List PacketAttribute} {group : Container} (htakes : group.Takes attr)
      (hfull : Full attr back) :
      Added attr (front ++ .container group :: back) (front ++ .container (group.add attr) :: back)

section

variable {vendor : UInt32} {attr : Attribute} (hvendor : attr.vendor = some vendor)
  {attributes : List PacketAttribute}
include hvendor

/-- The search for a container gives up where none takes the attribute in. -/
theorem full_of_joinContainer (h : joinContainer vendor attr attributes = none) :
    Full attr attributes := by
  induction attributes with
  | nil => simp [Full]
  | cons first later ih =>
      simp only [joinContainer] at h
      split at h
      · cases h
      rename_i hlater
      have hfull := ih hlater
      cases first with
      | standard other => exact hfull
      | container group =>
          refine List.forall_mem_cons.mpr ⟨?_, hfull⟩
          rintro ⟨hown, hroom⟩
          rw [hvendor, Option.some.injEq] at hown
          simp [hown.symm, hroom] at h

/-- The search for a container finds the last one that takes the attribute in. -/
theorem exists_of_joinContainer {joined : List PacketAttribute}
    (h : joinContainer vendor attr attributes = some joined) :
    ∃ front group back, attributes = front ++ .container group :: back ∧
      group.Takes attr ∧ Full attr back ∧ joined = front ++ .container (group.add attr) :: back := by
  induction attributes generalizing joined with
  | nil => cases h
  | cons first later ih =>
      unfold joinContainer at h
      split at h
      · rename_i later' hlater
        cases h
        obtain ⟨front, group, back, rfl, htakes, hfull, rfl⟩ := ih hlater
        exact ⟨first :: front, group, back, rfl, htakes, hfull, rfl⟩
      rename_i hlater
      split at h
      · cases h
      rename_i group
      split at h
      · rename_i hgroup
        cases h
        obtain ⟨rfl, hroom⟩ := hgroup
        exact ⟨[], group, later, rfl, ⟨hvendor, hroom⟩, full_of_joinContainer hvendor hlater, rfl⟩
      · cases h

end

theorem added_insertAttribute (attr : Attribute) (attributes : List PacketAttribute) :
    Added attr attributes (insertAttribute attr attributes) := by
  unfold insertAttribute
  cases hvendor : attr.vendor with
  | none => exact .standard hvendor
  | some vendor =>
      dsimp only
      cases hjoined : joinContainer vendor attr attributes with
      | none =>
          rw [Option.getD_none, PacketAttribute.ofAttribute, hvendor]
          exact .opened hvendor (full_of_joinContainer hvendor hjoined)
      | some joined =>
          obtain ⟨front, group, back, rfl, htakes, hfull, rfl⟩ :=
            exists_of_joinContainer hvendor hjoined
          exact .joined htakes hfull

/-! ## What adding leaves as it was, and what it adds -/

section

variable {attr : Attribute} {before after : List PacketAttribute}

/-- Standard attributes keep their places, and one that is added is the last. -/
theorem Added.standards_eq (h : Added attr before after) :
    standards after = standards before ++ if attr.vendor = none then [attr] else [] := by
  cases h with
  | standard hvendor => simp [hvendor]
  | opened hvendor hfull => simp [hvendor]
  | joined htakes hfull => simp [htakes.1]

/-- The containers of other vendors stay as they are. -/
theorem Added.containersOf_of_ne (h : Added attr before after) {vendor : UInt32}
    (hvendor : attr.vendor ≠ some vendor) :
    containersOf vendor after = containersOf vendor before := by
  cases h with
  | standard hnone => simp [containersOf]
  | opened hown hfull =>
      have hother : _ ≠ vendor := fun heq => hvendor (heq ▸ hown)
      simp [containersOf, hother]
  | joined htakes hfull =>
      have hother : _ ≠ vendor := fun heq => hvendor (heq ▸ htakes.1)
      simp [containersOf, Container.add, hother]

/-- Among the containers of its vendor an attribute joins the last one with room, or opens one
behind them. -/
theorem Added.containersOf_of_vendor (h : Added attr before after) {vendor : UInt32}
    (hvendor : attr.vendor = some vendor) :
    ((∀ group ∈ containersOf vendor before, ¬ group.hasRoom attr.encodedLength) ∧
        containersOf vendor after = containersOf vendor before ++ [⟨vendor, [attr]⟩]) ∨
      ∃ front group back, containersOf vendor before = front ++ group :: back ∧
        group.hasRoom attr.encodedLength ∧ (∀ full ∈ back, ¬ full.hasRoom attr.encodedLength) ∧
        containersOf vendor after =
          front ++ { group with attributes := group.attributes ++ [attr] } :: back := by
  have hroom : ∀ {attributes : List PacketAttribute}, Full attr attributes →
      ∀ group ∈ containersOf vendor attributes, ¬ group.hasRoom attr.encodedLength := by
    intro attributes hfull group hgroup hroom
    obtain ⟨hmem, hown⟩ := List.mem_filter.mp hgroup
    exact hfull group hmem ⟨by simpa [hvendor, eq_comm] using hown, hroom⟩
  cases h with
  | standard hnone =>
      rw [hvendor] at hnone
      cases hnone
  | opened hown hfull =>
      rw [hvendor, Option.some.injEq] at hown
      exact .inl ⟨hroom hfull, by simp [containersOf, hown]⟩
  | @joined front back group htakes hfull =>
      have hown := htakes.1
      rw [hvendor, Option.some.injEq] at hown
      refine .inr ⟨containersOf vendor front, group, containersOf vendor back, ?_, htakes.2,
        hroom hfull, ?_⟩
      · simp [containersOf, hown]
      · simp [containersOf, Container.add_of_vendor htakes.1, hown]

/-- The attributes of the vendor are those of before and the new one. -/
theorem Added.attributes_perm (h : Added attr before after) {vendor : UInt32}
    (hvendor : attr.vendor = some vendor) :
    ((containersOf vendor after).flatMap (·.attributes)).Perm
      ((containersOf vendor before).flatMap (·.attributes) ++ [attr]) := by
  rcases h.containersOf_of_vendor hvendor with
    ⟨-, hafter⟩ | ⟨front, group, back, hbefore, -, -, hafter⟩
  · simp [hafter]
  · rw [hbefore, hafter]
    simp only [List.flatMap_append, List.flatMap_cons, List.append_assoc]
    exact (List.perm_append_comm.append_left _).append_left _

/-! ## Lengths -/

/-- The packet grows by the attribute, and by the header of a container if one is opened. -/
theorem Added.length_eq (h : Added attr before after) :
    ∃ opened ≤ if attr.vendor = none then 0 else 1,
      (containers after).length = (containers before).length + opened ∧
      (after.flatMap PacketAttribute.octets).length =
        (before.flatMap PacketAttribute.octets).length + attr.encodedLength +
          Container.headerLength * opened := by
  cases h with
  | standard hvendor =>
      refine ⟨0, Nat.zero_le _, by simp, ?_⟩
      simp [PacketAttribute.encodedLength]
  | opened hvendor hfull =>
      refine ⟨1, by simp [hvendor], by simp, ?_⟩
      simp [PacketAttribute.encodedLength, Container.encodedLength]
      omega
  | joined htakes hfull =>
      refine ⟨0, Nat.zero_le _, by simp, ?_⟩
      simp [PacketAttribute.encodedLength, Container.encodedLength_add]
      omega

/-- No container is opened while one of the vendor has room. -/
theorem Added.length_containers_of_room (h : Added attr before after) {vendor : UInt32}
    (hvendor : attr.vendor = some vendor) {group : Container}
    (hgroup : group ∈ containersOf vendor before) (hroom : group.hasRoom attr.encodedLength) :
    (containers after).length = (containers before).length := by
  cases h with
  | standard hnone => simp
  | opened hown hfull =>
      obtain ⟨hmem, hsame⟩ := List.mem_filter.mp hgroup
      exact absurd ⟨by simpa [hvendor, eq_comm] using hsame, hroom⟩ (hfull group hmem)
  | joined htakes hfull => simp

/-- Where everything fits the length octet and the attribute does on its own, everything fits it
afterwards. -/
theorem Added.fits (h : Added attr before after)
    (hbefore : ∀ present ∈ before, present.encodedLength ≤ 255)
    (hattr : (PacketAttribute.ofAttribute attr).encodedLength ≤ 255) :
    ∀ present ∈ after, present.encodedLength ≤ 255 := by
  cases h with
  | standard hvendor =>
      rw [PacketAttribute.ofAttribute, hvendor] at hattr
      rw [List.forall_mem_append, List.forall_mem_singleton]
      exact ⟨hbefore, hattr⟩
  | opened hvendor hfull =>
      rw [PacketAttribute.ofAttribute, hvendor] at hattr
      rw [List.forall_mem_append, List.forall_mem_singleton]
      exact ⟨hbefore, hattr⟩
  | joined htakes hfull =>
      rw [List.forall_mem_append, List.forall_mem_cons] at hbefore ⊢
      obtain ⟨hfront, -, hback⟩ := hbefore
      refine ⟨hfront, ?_, hback⟩
      rw [PacketAttribute.encodedLength, Container.encodedLength_add]
      exact Container.hasRoom_iff.mp htakes.2

end

/-- An attribute fits the length octet on its own if its value leaves room for its header and, if it
has a vendor, for that of a container. -/
theorem encodedLength_ofAttribute_le {attr : Attribute}
    (h : attr.value.length ≤ if attr.vendor = none then 253 else 247) :
    (PacketAttribute.ofAttribute attr).encodedLength ≤ 255 := by
  unfold PacketAttribute.ofAttribute
  cases hvendor : attr.vendor with
  | none =>
      rw [if_pos hvendor] at h
      simp only [PacketAttribute.encodedLength, Attribute.encodedLength, Attribute.headerLength]
      omega
  | some vendor =>
      rw [if_neg (by simp [hvendor])] at h
      simp only [PacketAttribute.encodedLength, Container.encodedLength, Container.headerLength,
        List.foldr_cons, List.foldr_nil, Attribute.encodedLength, Attribute.headerLength]
      omega

/-! ## Adding -/

/-- What a packet is after an attribute has been added to it. -/
structure Grows (attr : Attribute) (before after : Packet) : Prop where
  /-- Standard attributes stay in their order, and a new one is behind them. -/
  standards_eq : standards after.attributes =
    standards before.attributes ++ if attr.vendor = none then [attr] else []
  others_eq : ∀ vendor, attr.vendor ≠ some vendor →
    after.vendorAttributes vendor = before.vendorAttributes vendor
  own_perm : ∀ vendor, attr.vendor = some vendor →
    (after.vendorAttributes vendor).Perm (before.vendorAttributes vendor ++ [attr])
  /-- One container more or none: its header is all that comes on top of the attribute. -/
  length_eq : ∃ opened ≤ if attr.vendor = none then 0 else 1,
    (containers after.attributes).length = (containers before.attributes).length + opened ∧
      after.encodedLength = before.encodedLength + (2 + attr.value.length) + 6 * opened
  /-- No container more while one of the vendor, the last or another, has room. -/
  length_of_room : ∀ vendor, attr.vendor = some vendor →
    ∀ group ∈ containersOf vendor before.attributes,
      group.encodedLength + (2 + attr.value.length) ≤ 255 →
        (containers after.attributes).length = (containers before.attributes).length
  fits : (∀ present ∈ before.attributes, present.encodedLength ≤ 255) →
    attr.value.length ≤ (if attr.vendor = none then 253 else 247) →
      ∀ present ∈ after.attributes, present.encodedLength ≤ 255

theorem grows_addAttribute (packet : Packet) (attr : Attribute) :
    Grows attr packet (packet.addAttribute attr) := by
  have hadded : Added attr packet.attributes (packet.addAttribute attr).attributes :=
    added_insertAttribute attr packet.attributes
  refine ⟨hadded.standards_eq, ?others, ?own, ?length, ?room, ?fits⟩
  case others =>
    intro vendor hvendor
    rw [vendorAttributes_eq, vendorAttributes_eq, hadded.containersOf_of_ne hvendor]
  case own =>
    intro vendor hvendor
    rw [vendorAttributes_eq, vendorAttributes_eq]
    exact hadded.attributes_perm hvendor
  case length =>
    obtain ⟨opened, hone, hcontainers, hlength⟩ := hadded.length_eq
    refine ⟨opened, hone, hcontainers, ?_⟩
    rw [encodedLength_eq, encodedLength_eq, attributeOctets, attributeOctets, hlength,
      Attribute.encodedLength, Attribute.headerLength, Container.headerLength]
    omega
  case room =>
    intro vendor hvendor group hgroup hroom
    exact hadded.length_containers_of_room hvendor hgroup (Container.hasRoom_iff.mpr hroom)
  case fits =>
    intro hbefore hattr
    exact hadded.fits hbefore (encodedLength_ofAttribute_le hattr)

/-- Attributes that fit on their own can be added one after the other. -/
theorem fits_foldl_addAttribute {attrs : List Attribute}
    (hattrs : ∀ attr ∈ attrs, attr.value.length ≤ if attr.vendor = none then 253 else 247)
    {packet : Packet} (hpacket : ∀ present ∈ packet.attributes, present.encodedLength ≤ 255) :
    ∀ present ∈ (attrs.foldl addAttribute packet).attributes, present.encodedLength ≤ 255 := by
  induction attrs generalizing packet with
  | nil => exact hpacket
  | cons attr attrs ih =>
      rw [List.forall_mem_cons] at hattrs
      exact ih hattrs.2 ((grows_addAttribute packet attr).fits hpacket hattrs.1)

/-- Adding an attribute changes nothing but what it adds, of which nothing is lost, and opens no
container without need. A packet that has been filled with attributes that fit on their own has
only attributes that can be encoded. -/
theorem grouping_loses_nothing :
    (∀ (packet : Packet) (attr : Attribute), Grows attr packet (packet.addAttribute attr)) ∧
    ∀ (code : Code) (identifier : UInt8) (attrs : List Attribute),
      (∀ attr ∈ attrs, attr.value.length ≤ if attr.vendor = none then 253 else 247) →
      ∀ present ∈ (attrs.foldl addAttribute (new code identifier)).attributes,
        present.encodedLength ≤ 255 ∧
          ∀ buffer, present.encodeInto buffer = (.ok (), buffer ++ present.octets) := by
  refine ⟨grows_addAttribute, fun code identifier attrs hattrs present hpresent => ?_⟩
  have hfits : present.encodedLength ≤ 255 :=
    fits_foldl_addAttribute hattrs (by simp [new]) present hpresent
  refine ⟨hfits, fun buffer => ?_⟩
  rw [PacketAttribute.encodeInto_eq, if_neg (by rw [Attribute.maxLength]; omega)]

/-! ## Sample attributes

Two vendors and a standard attribute. The last attribute fills the first container to its last
octet. -/

namespace Sample

def first : Attribute := .ofVendor 9 1 (List.replicate 100 0x61)

def filling : Attribute := .ofVendor 9 2 (List.replicate 145 0x62)

def mixed : List Attribute :=
  [.standard 1 [0x6e, 0x65, 0x6d, 0x6f], first, .ofVendor 14122 2 [0x6c, 0x6f, 0x62, 0x62, 0x79]]

def grouped : Packet := mixed.foldl addAttribute (new .accessAccept 1)

end Sample

theorem sample_grouping_loses_nothing :
    (∀ attr ∈ Sample.mixed ++ [Sample.filling],
      attr.value.length ≤ if attr.vendor = none then 253 else 247) ∧
    (∃ group ∈ containersOf 9 Sample.grouped.attributes,
      group.encodedLength + (2 + Sample.filling.value.length) = 255) ∧
    (containers (Sample.grouped.addAttribute Sample.filling).attributes).length = 2 ∧
    ((Sample.grouped.addAttribute Sample.filling).vendorAttributes 9).Perm
      [Sample.first, Sample.filling] ∧
    ∀ present ∈ (Sample.grouped.addAttribute Sample.filling).attributes,
      ∀ buffer, present.encodeInto buffer = (.ok (), buffer ++ present.octets) := by
  have hattrs : ∀ attr ∈ Sample.mixed ++ [Sample.filling],
      attr.value.length ≤ if attr.vendor = none then 253 else 247 := by decide +kernel
  have hroom : (⟨9, [Sample.first]⟩ : Container).encodedLength +
      (2 + Sample.filling.value.length) = 255 := by decide +kernel
  have hgroup : (⟨9, [Sample.first]⟩ : Container) ∈ containersOf 9 Sample.grouped.attributes := by
    decide +kernel
  have hgrows := grouping_loses_nothing.1 Sample.grouped Sample.filling
  refine ⟨hattrs, ⟨_, hgroup, hroom⟩, ?_, hgrows.own_perm 9 rfl, ?_⟩
  · exact hgrows.length_of_room 9 rfl _ hgroup (Nat.le_of_eq hroom)
  · intro present hpresent
    have hadded := grouping_loses_nothing.2 .accessAccept 1 (Sample.mixed ++ [Sample.filling])
      hattrs present
    rw [List.foldl_append] at hadded
    exact (hadded hpresent).2

end Packet
end Radius
