-- SUMMARY: When an attribute that is added comes last among the attributes of its vendor.
import Radius.Proofs.Packet.Grouping

/-!
# The order of vendor attributes

An attribute joins the last container of its vendor that has room, which need not be the
last container of the vendor: it passes over those behind, and then stands in front of what
is in them. Nothing is passed over exactly if the last container has room or none has.
Otherwise the order in which attributes were added is lost, unless everything passed over
is the very attribute that is added.
-/

namespace Radius.Packet

/-! ## What is passed over -/

/-- The containers behind the last one with room for so many octets; none if no container has
room. -/
def behindRoom (needed : Nat) : List Container → List Container
  | [] => []
  | first :: later =>
      if later.any (·.hasRoom needed) then behindRoom needed later
      else if first.hasRoom needed then later
      else []

/-- The attributes of a vendor in the containers behind the one that an attribute of the vendor
joins. -/
def passedOver (packet : Packet) (vendor : UInt32) (attr : Attribute) : List Attribute :=
  (behindRoom attr.encodedLength (containersOf vendor packet.attributes)).flatMap (·.attributes)

section

variable {needed : Nat} {groups : List Container}

theorem behindRoom_of_full (h : ∀ group ∈ groups, ¬ group.hasRoom needed) :
    behindRoom needed groups = [] := by
  cases groups with
  | nil => rfl
  | cons first later =>
      rw [List.forall_mem_cons] at h
      have hlater : later.any (·.hasRoom needed) = false := by simpa using h.2
      simp [behindRoom, hlater, h.1]

theorem behindRoom_append {group : Container} (hroom : group.hasRoom needed)
    {back : List Container} (hfull : ∀ full ∈ back, ¬ full.hasRoom needed)
    (front : List Container) : behindRoom needed (front ++ group :: back) = back := by
  have hback : back.any (·.hasRoom needed) = false := by simpa using hfull
  induction front with
  | nil => simp [behindRoom, hback, hroom]
  | cons first front ih =>
      have hlater : (front ++ group :: back).any (·.hasRoom needed) = true := by simp [hroom]
      rw [List.cons_append, behindRoom, if_pos hlater, ih]

end

/-- What the vendor had before is in two parts, the attribute comes between them, and the second
one is what it passes over. -/
theorem vendorAttributes_addAttribute (packet : Packet) {vendor : UInt32} {attr : Attribute}
    (hvendor : attr.vendor = some vendor) :
    ∃ reached, packet.vendorAttributes vendor = reached ++ packet.passedOver vendor attr ∧
      (packet.addAttribute attr).vendorAttributes vendor =
        reached ++ attr :: packet.passedOver vendor attr := by
  have hadded : Added attr packet.attributes (packet.addAttribute attr).attributes :=
    added_insertAttribute attr packet.attributes
  rw [vendorAttributes_eq, vendorAttributes_eq, passedOver]
  rcases hadded.containersOf_of_vendor hvendor with
    ⟨hfull, hafter⟩ | ⟨front, group, back, hbefore, hroom, hfull, hafter⟩
  · rw [hafter, behindRoom_of_full hfull]
    exact ⟨_, (List.append_nil _).symm, by simp⟩
  · rw [hbefore, hafter, behindRoom_append hroom hfull]
    exact ⟨(front ++ [group]).flatMap (·.attributes), by simp, by simp⟩

/-! ## When nothing is passed over -/

section

variable {needed : Nat}

/-- A container without room, where another one has some, holds attributes. -/
theorem attributes_ne_nil_of_full {group full : Container} (hroom : group.hasRoom needed)
    (hfull : ¬ full.hasRoom needed) : full.attributes ≠ [] := by
  intro hempty
  rw [Container.hasRoom_iff] at hroom hfull
  simp only [Container.encodedLength, hempty, List.foldr_nil] at hroom hfull
  omega

/-- Either no container has room or there is a last one that has. -/
theorem full_or_exists_last (needed : Nat) (groups : List Container) :
    (∀ group ∈ groups, ¬ group.hasRoom needed) ∨
      ∃ front group back, groups = front ++ group :: back ∧ group.hasRoom needed ∧
        ∀ full ∈ back, ¬ full.hasRoom needed := by
  induction groups with
  | nil => simp
  | cons first later ih =>
      rcases ih with hfull | ⟨front, group, back, rfl, hlast⟩
      · by_cases hroom : first.hasRoom needed
        · exact .inr ⟨[], first, later, rfl, hroom, hfull⟩
        · exact .inl (List.forall_mem_cons.mpr ⟨hroom, hfull⟩)
      · exact .inr ⟨first :: front, group, back, rfl, hlast⟩

/-- The rule that an attribute joins the last container, or a new one if that has no room, is the
one followed where the last container has room or none has. -/
def LastRule (needed : Nat) (groups : List Container) : Prop :=
  (∃ last, groups.getLast? = some last ∧ last.hasRoom needed) ∨
    ∀ group ∈ groups, ¬ group.hasRoom needed

theorem flatMap_behindRoom_eq_nil_iff {groups : List Container} :
    (behindRoom needed groups).flatMap (·.attributes) = [] ↔ LastRule needed groups := by
  rcases full_or_exists_last needed groups with hfull | ⟨front, group, back, rfl, hroom, hback⟩
  · rw [behindRoom_of_full hfull, List.flatMap_nil]
    exact ⟨fun _ => .inr hfull, fun _ => rfl⟩
  · have hsome : ¬ ∀ group' ∈ front ++ group :: back, ¬ group'.hasRoom needed :=
      fun hnone => hnone group (by simp) hroom
    rw [behindRoom_append hroom hback, LastRule, or_iff_left hsome]
    cases hlast : back.getLast? with
    | none =>
        rw [List.getLast?_eq_none_iff] at hlast
        simp [hlast, hroom]
    | some last =>
        have hmem := List.mem_of_getLast? hlast
        have hnone := hback last hmem
        have hheld := attributes_ne_nil_of_full hroom hnone
        simp only [List.flatMap_eq_nil_iff, List.getLast?_append, List.getLast?_cons, hlast]
        constructor
        · intro hempty
          exact absurd (hempty last hmem) hheld
        · simp [hnone]

end

/-! ## Order -/

theorem cons_eq_concat_iff {α : Type} {a : α} {list : List α} :
    a :: list = list ++ [a] ↔ ∀ b ∈ list, b = a := by
  induction list with
  | nil => simp
  | cons b list ih =>
      rw [List.forall_mem_cons, ← ih, List.cons_append, List.cons.injEq]
      constructor
      · rintro ⟨rfl, heq⟩
        exact ⟨rfl, heq⟩
      · rintro ⟨rfl, heq⟩
        exact ⟨rfl, heq⟩

section

variable {packet : Packet} {vendor : UInt32} {attr : Attribute}

/-- An attribute comes last exactly if all it passes over are the same as it. -/
theorem vendorAttributes_eq_concat_iff (hvendor : attr.vendor = some vendor) :
    (packet.addAttribute attr).vendorAttributes vendor = packet.vendorAttributes vendor ++ [attr] ↔
      ∀ later ∈ packet.passedOver vendor attr, later = attr := by
  obtain ⟨reached, hbefore, hafter⟩ := packet.vendorAttributes_addAttribute hvendor
  rw [hbefore, hafter, List.append_assoc, List.append_cancel_left_eq, cons_eq_concat_iff]

/-- What a vendor's attribute finds stays the first of its type unless all of that type are passed
over by a new one. -/
theorem find?_addAttribute_iff (hvendor : attr.vendor = some vendor) {type : UInt8}
    {found : Attribute} (hfound : packet.find? (some vendor) type = some found) :
    (packet.addAttribute attr).find? (some vendor) type = some found ↔
      attr.type ≠ type ∨ found = attr ∨
        ∃ reached, packet.vendorAttributes vendor = reached ++ packet.passedOver vendor attr ∧
          found ∈ reached := by
  obtain ⟨reached, hbefore, hafter⟩ := packet.vendorAttributes_addAttribute hvendor
  simp only [find?, hbefore, hafter, List.find?_append] at hfound ⊢
  cases hreached : reached.find? (·.type = type) with
  | some first =>
      rw [hreached, Option.some_or, Option.some.injEq] at hfound
      subst hfound
      simp only [Option.some_or, true_iff]
      exact .inr (.inr ⟨reached, rfl, List.mem_of_find?_eq_some hreached⟩)
  | none =>
      rw [hreached, Option.none_or] at hfound
      rw [Option.none_or, List.find?_cons]
      by_cases htype : attr.type = type
      · have hnone : found ∉ reached := by
          intro hmem
          have hfirst := List.find?_some hfound
          have hother := List.find?_eq_none.mp hreached found hmem
          exact hother hfirst
        simp [htype, hnone, eq_comm]
      · simp [htype, hfound]

end

/-- Attributes that are added to an empty packet stay in order, at every point, exactly if none of
the vendor ever passes over others. -/
theorem vendorAttributes_foldl_iff (vendor : UInt32) (code : Code) (identifier : UInt8)
    (attrs : List Attribute) :
    (∀ added, added <+: attrs →
      (added.foldl addAttribute (new code identifier)).vendorAttributes vendor =
        added.filter (·.vendor = some vendor)) ↔
    ∀ added attr, added ++ [attr] <+: attrs → attr.vendor = some vendor →
      ∀ later ∈ (added.foldl addAttribute (new code identifier)).passedOver vendor attr,
        later = attr := by
  constructor
  · intro hordered added attr hprefix hvendor
    have hbefore := hordered added ((List.prefix_append added [attr]).trans hprefix)
    have hafter := hordered (added ++ [attr]) hprefix
    rw [← vendorAttributes_eq_concat_iff hvendor, hbefore]
    simpa [hvendor] using hafter
  · intro hlast added
    induction added using List.reverseRecOn with
    | nil =>
        intro hprefix
        rfl
    | append_singleton added attr ih =>
        intro hprefix
        have hbefore := ih ((List.prefix_append added [attr]).trans hprefix)
        rw [List.foldl_append, List.foldl_cons, List.foldl_nil, List.filter_append, ← hbefore]
        by_cases hvendor : attr.vendor = some vendor
        · rw [(vendorAttributes_eq_concat_iff hvendor).mpr (hlast added attr hprefix hvendor)]
          simp [hvendor]
        · rw [(grows_addAttribute _ attr).others_eq vendor hvendor]
          simp [hvendor]

/-- An attribute that is added comes last among those of its vendor exactly if all it passes over
are the same as it, and nothing is passed over exactly if the last container has room or none has.
The first attribute of a type stays the first unless a new one of the type passes over it. -/
theorem order_is_kept_iff (packet : Packet) (vendor : UInt32) (attr : Attribute) :
    (packet.passedOver vendor attr = [] ↔
      LastRule attr.encodedLength (containersOf vendor packet.attributes)) ∧
    (attr.vendor = some vendor →
      ((packet.addAttribute attr).vendorAttributes vendor =
          packet.vendorAttributes vendor ++ [attr] ↔
        ∀ later ∈ packet.passedOver vendor attr, later = attr) ∧
      ∀ type found, packet.find? (some vendor) type = some found →
        ((packet.addAttribute attr).find? (some vendor) type = some found ↔
          attr.type ≠ type ∨ found = attr ∨
            ∃ reached, packet.vendorAttributes vendor = reached ++ packet.passedOver vendor attr ∧
              found ∈ reached)) ∧
    (attr.vendor ≠ some vendor →
      (packet.addAttribute attr).vendorAttributes vendor = packet.vendorAttributes vendor ∧
      ∀ type, (packet.addAttribute attr).find? (some vendor) type =
        packet.find? (some vendor) type) ∧
    ∀ (code : Code) (identifier : UInt8) (attrs : List Attribute),
      (∀ added, added <+: attrs →
        (added.foldl addAttribute (new code identifier)).vendorAttributes vendor =
          added.filter (·.vendor = some vendor)) ↔
      ∀ added attr, added ++ [attr] <+: attrs → attr.vendor = some vendor →
        ∀ later ∈ (added.foldl addAttribute (new code identifier)).passedOver vendor attr,
          later = attr := by
  refine ⟨flatMap_behindRoom_eq_nil_iff, ?own, ?other, vendorAttributes_foldl_iff vendor⟩
  case own =>
    intro hvendor
    exact ⟨vendorAttributes_eq_concat_iff hvendor, fun type found => find?_addAttribute_iff hvendor⟩
  case other =>
    intro hvendor
    have hsame := (grows_addAttribute packet attr).others_eq vendor hvendor
    exact ⟨hsame, fun type => by rw [find?, find?, hsame]⟩

/-! ## Sample attributes

Behind the first attribute of before, the second leaves too little room for the third in its own
container, but there is enough in that of the first. -/

namespace Sample

def second : Attribute := .ofVendor 9 2 (List.replicate 200 0x62)

def third : Attribute := .ofVendor 9 2 (List.replicate 50 0x63)

def ordered : Packet := [first, second].foldl addAttribute (new .accessAccept 1)

end Sample

/-- The third attribute comes second, and is found in place of the one that was there. -/
theorem sample_order_is_lost :
    Sample.ordered.vendorAttributes 9 = [Sample.first, Sample.second] ∧
    (Sample.ordered.addAttribute Sample.third).vendorAttributes 9 ≠
      Sample.ordered.vendorAttributes 9 ++ [Sample.third] ∧
    Sample.ordered.find? (some 9) 2 = some Sample.second ∧
    (Sample.ordered.addAttribute Sample.third).find? (some 9) 2 = some Sample.third := by
  decide +kernel

end Radius.Packet
