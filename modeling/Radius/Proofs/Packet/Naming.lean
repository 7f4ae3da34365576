-- SUMMARY: An attribute that is set by its dictionary name is the one that is read by it, and no other name reads anything else than before.
import Radius.Proofs.Dictionary.Consistency
import Radius.Proofs.Packet.VendorOrder

/-!
# Attributes by name

A name leads to a vendor and a code, and no two names lead to the same. An attribute that is added
may come to stand in the middle of the list, but to a search for another vendor or another code it
makes no difference, and a search for its own that found nothing before finds it. So what is set
by a name is read by it, and all other names read what they did.
-/

namespace Radius.Packet

/-! ## Finding after adding -/

theorem attributesOfType_eq (packet : Packet) (type : UInt8) :
    packet.attributesOfType type = (standards packet.attributes).filter (·.type = type) := by
  unfold attributesOfType standards
  rw [List.filter_filterMap]
  congr 1
  funext present
  cases present with
  | standard attr => by_cases htype : attr.type = type <;> simp [htype, Option.filter]
  | container group => rfl

theorem find?_none (packet : Packet) (type : UInt8) :
    packet.find? none type = (standards packet.attributes).find? (·.type = type) := by
  rw [find?, attribute?, attributesOfType_eq, List.head?_filter]

section

variable {packet : Packet} {attr : Attribute}

/-- A search for another vendor or another code finds what it did. -/
theorem find?_addAttribute_of_ne {vendor : Option UInt32} {type : UInt8}
    (h : (attr.vendor, attr.type) ≠ (vendor, type)) :
    (packet.addAttribute attr).find? vendor type = packet.find? vendor type := by
  have hgrows := grows_addAttribute packet attr
  cases vendor with
  | none =>
      rw [find?_none, find?_none, hgrows.standards_eq]
      split
      · rename_i hnone
        have htype : attr.type ≠ type := fun hsame => h (Prod.ext hnone hsame)
        simp [htype]
      · rw [List.append_nil]
  | some vendor =>
      by_cases hvendor : attr.vendor = some vendor
      · have htype : attr.type ≠ type := fun hsame => h (Prod.ext hvendor hsame)
        obtain ⟨reached, hbefore, hafter⟩ := packet.vendorAttributes_addAttribute hvendor
        simp [find?, hbefore, hafter, List.find?_append, htype]
      · rw [find?, find?, hgrows.others_eq vendor hvendor]

/-- A search for its vendor and code that found nothing finds the attribute. -/
theorem find?_addAttribute_self (h : packet.find? attr.vendor attr.type = none) :
    (packet.addAttribute attr).find? attr.vendor attr.type = some attr := by
  cases hvendor : attr.vendor with
  | none =>
      rw [hvendor, find?_none] at h
      rw [find?_none, (grows_addAttribute packet attr).standards_eq, if_pos hvendor,
        List.find?_append, h]
      simp
  | some vendor =>
      obtain ⟨reached, hbefore, hafter⟩ := packet.vendorAttributes_addAttribute hvendor
      rw [hvendor, find?, hbefore, List.find?_append, Option.or_eq_none_iff] at h
      simp only [find?]
      rw [hafter, List.find?_append, h.1]
      simp

end

/-! ## Operations in place -/

/-- An operation on a packet in place. A fault ends it and keeps what has been written. -/
abbrev Update (α : Type) := ExceptT PacketError (StateM Packet) α

namespace Update

/-- What an operation comes to, and the packet that it leaves. -/
def outcome {α : Type} (update : Update α) (packet : Packet) : Except PacketError α × Packet :=
  (ExceptT.run update).run packet

/-- Append an attribute that a dictionary names, check by check. -/
def addNamed (dictionary : Dictionary) (name text : String) : Update Unit := do
  match dictionary.byName? name with
  | none => throw (.unknownAttribute name)
  | some definition =>
      if definition.kind = .vendorSpecific then throw (.invalidValue (.container name))
      let bytes ← ExceptT.mk (pure (definition.parseValue text))
      modify (·.addAttribute ⟨definition.vendor, definition.code, bytes⟩)

/-- An operation that succeeds leaves the packet that it makes, and one that fails the packet as it
was. -/
theorem outcome_addNamed (dictionary : Dictionary) (name text : String) (packet : Packet) :
    outcome (addNamed dictionary name text) packet =
      match packet.addNamed dictionary name text with
      | .ok after    => (.ok (), after)
      | .error fault => (.error fault, packet) := by
  unfold addNamed Packet.addNamed
  cases hname : dictionary.byName? name with
  | none => rfl
  | some definition =>
      dsimp only
      split
      · rfl
      · cases definition.parseValue text with
        | ok bytes => rfl
        | error fault => rfl

theorem outcome_addNamed_eq_ok_iff {dictionary : Dictionary} {name text : String}
    {before after : Packet} :
    outcome (addNamed dictionary name text) before = (.ok (), after) ↔
      before.addNamed dictionary name text = .ok after := by
  rw [outcome_addNamed]
  cases before.addNamed dictionary name text <;> simp

theorem outcome_addNamed_eq_error_iff {dictionary : Dictionary} {name text : String}
    {before after : Packet} {fault : PacketError} :
    outcome (addNamed dictionary name text) before = (.error fault, after) ↔
      before.addNamed dictionary name text = .error fault ∧ after = before := by
  rw [outcome_addNamed]
  cases before.addNamed dictionary name text <;> simp [eq_comm]

end Update

/-! ## Setting and reading by name -/

theorem addNamed_eq_ok_iff {dictionary : Dictionary} {packet after : Packet} {name text : String} :
    packet.addNamed dictionary name text = .ok after ↔
      ∃ definition bytes, dictionary.byName? name = some definition ∧
        definition.kind ≠ .vendorSpecific ∧ definition.parseValue text = .ok bytes ∧
        after = packet.addAttribute ⟨definition.vendor, definition.code, bytes⟩ := by
  unfold addNamed
  cases hname : dictionary.byName? name with
  | none => simp
  | some definition =>
      simp only [Option.some.injEq, exists_and_left, exists_eq_left']
      split
      · rename_i hkind
        simp [hkind]
      · rename_i hkind
        rw [Except.map_eq_ok_iff, and_iff_right hkind]
        exact exists_congr fun bytes => and_congr_right' eq_comm

theorem valueOf?_eq (dictionary : Dictionary) (packet : Packet) (name : String) :
    packet.valueOf? dictionary name = (dictionary.byName? name).bind (fun definition =>
      (packet.named? dictionary name).map (fun attr => definition.formatValue attr.value)) := by
  unfold valueOf? named?
  cases dictionary.byName? name <;> rfl

section

variable {dictionary : Dictionary} (h : dictionary.Indexed) {name : String}
  {definition : AttributeDefinition} (hname : dictionary.byName? name = some definition)
include h hname

/-- No other name leads to the vendor and the code of this one. -/
theorem key_ne_of_name_ne {other : String} {found : AttributeDefinition}
    (hfound : dictionary.byName? other = some found) (hother : other ≠ name) :
    definition.key ≠ found.key := by
  intro hkey
  obtain ⟨hmem, rfl⟩ := (Dictionary.byName?_eq_some_iff h).mp hname
  obtain ⟨hmem', rfl⟩ := (Dictionary.byName?_eq_some_iff h).mp hfound
  obtain ⟨hvendor, hcode⟩ := Prod.mk.inj hkey
  have hcoded := (Dictionary.byCode?_eq_some_iff h).mpr ⟨hmem, hvendor, hcode⟩
  rw [(Dictionary.byCode?_eq_some_iff h).mpr ⟨hmem', rfl, rfl⟩, Option.some.injEq] at hcoded
  exact hother (congrArg AttributeDefinition.name hcoded)

variable (packet : Packet) (bytes : Bytes)

/-- Other names read what they did. -/
theorem named?_addAttribute_of_ne {other : String} (hother : other ≠ name) :
    (packet.addAttribute ⟨definition.vendor, definition.code, bytes⟩).named? dictionary other =
      packet.named? dictionary other := by
  unfold named?
  cases hfound : dictionary.byName? other with
  | none => rfl
  | some found => exact find?_addAttribute_of_ne (key_ne_of_name_ne h hname hfound hother)

end

/-- The name of an attribute reads it, if it read nothing before. -/
theorem named?_addAttribute_self {dictionary : Dictionary} {packet : Packet} {name : String}
    {definition : AttributeDefinition} (hname : dictionary.byName? name = some definition)
    (bytes : Bytes) (hnone : packet.named? dictionary name = none) :
    (packet.addAttribute ⟨definition.vendor, definition.code, bytes⟩).named? dictionary name =
      some ⟨definition.vendor, definition.code, bytes⟩ := by
  unfold named? at hnone ⊢
  rw [hname, Option.bind_some] at hnone ⊢
  exact find?_addAttribute_self hnone

/-- Setting and reading by name agree, for any dictionary that was built. Setting fails without a
trace. It succeeds if the name has a definition for values and the text writes one, and if the
name read nothing before, it reads that value then, and its text is what the definition makes of
it; all other names read what they did. The type of containers is never set by its name. -/
theorem names_read_what_they_set {dictionary : Dictionary} (h : Dictionary.Built dictionary)
    (packet : Packet) (name text : String) :
    (∀ fault left,
      Update.outcome (Update.addNamed dictionary name text) packet = (.error fault, left) →
        left = packet) ∧
    ((∃ left, Update.outcome (Update.addNamed dictionary name text) packet = (.ok (), left)) ↔
      ∃ definition bytes, dictionary.byName? name = some definition ∧
        definition.kind ≠ .vendorSpecific ∧ definition.parseValue text = .ok bytes) ∧
    (∀ left, Update.outcome (Update.addNamed dictionary name text) packet = (.ok (), left) →
      (packet.named? dictionary name = none → ∃ definition bytes,
        dictionary.byName? name = some definition ∧ definition.parseValue text = .ok bytes ∧
        left.named? dictionary name = some ⟨definition.vendor, definition.code, bytes⟩ ∧
        left.valueOf? dictionary name = some (definition.formatValue bytes)) ∧
      ∀ other, other ≠ name →
        left.named? dictionary other = packet.named? dictionary other ∧
        left.valueOf? dictionary other = packet.valueOf? dictionary other) ∧
    ∀ definition, dictionary.byCode? none AttributeType.vendorSpecific = some definition →
      Update.outcome (Update.addNamed dictionary definition.name text) packet =
        (.error (.invalidValue (.container definition.name)), packet) := by
  refine ⟨?failed, ?succeeds, ?succeeded, ?container⟩
  case failed =>
    intro fault left houtcome
    exact (Update.outcome_addNamed_eq_error_iff.mp houtcome).2
  case succeeds =>
    simp only [Update.outcome_addNamed_eq_ok_iff, addNamed_eq_ok_iff]
    constructor
    · rintro ⟨left, definition, bytes, hname, hkind, hparsed, -⟩
      exact ⟨definition, bytes, hname, hkind, hparsed⟩
    · rintro ⟨definition, bytes, hname, hkind, hparsed⟩
      exact ⟨_, definition, bytes, hname, hkind, hparsed, rfl⟩
  case succeeded =>
    intro left houtcome
    obtain ⟨definition, bytes, hname, -, hparsed, rfl⟩ :=
      addNamed_eq_ok_iff.mp (Update.outcome_addNamed_eq_ok_iff.mp houtcome)
    constructor
    · intro hnone
      have hread := named?_addAttribute_self hname bytes hnone
      refine ⟨definition, bytes, hname, hparsed, hread, ?_⟩
      rw [valueOf?_eq, hname, Option.bind_some, hread, Option.map_some]
    · intro other hother
      have hread := named?_addAttribute_of_ne h.indexed hname packet bytes hother
      exact ⟨hread, by rw [valueOf?_eq, valueOf?_eq, hread]⟩
  case container =>
    intro definition hcode
    have hname := Dictionary.byName?_of_byCode? h.indexed hcode
    obtain ⟨hmem, hvendor, htype⟩ := (Dictionary.byCode?_eq_some_iff h.indexed).mp hcode
    have hkind := h.reservesContainer definition hmem hvendor htype
    rw [Update.outcome_addNamed, addNamed, hname]
    simp only [if_pos hkind]

/-! ## A sample packet

A vendor's attribute of another type stands in a container before a standard attribute, and what
is set joins that container, with the code of the standard attribute. -/

namespace Sample

def named : Dictionary := Dictionary.ofCalls
  [.define (.new 1 "Badge" .string), .define (.ofVendor 9 1 "Role" .string),
    .define (.new 26 "Vendor" .octets)]

def badged : Packet :=
  ⟨.accessRequest, 1, none, [.container ⟨9, [.ofVendor 9 2 [7]]⟩, .standard (.ofText 1 "b12")]⟩

end Sample

theorem sample_names_read_what_they_set :
    ∃ left, Update.outcome (Update.addNamed Sample.named "Role" "door") Sample.badged =
        (.ok (), left) ∧
      left.named? Sample.named "Role" = some (.ofVendor 9 1 (Utf8.encode "door")) ∧
      left.valueOf? Sample.named "Role" = some "door" ∧
      left.valueOf? Sample.named "Badge" = some "b12" ∧
      Update.outcome (Update.addNamed Sample.named "Vendor" "00") left =
        (.error (.invalidValue (.container "Vendor")), left) := by
  have hbuilt : Dictionary.Built Sample.named := Dictionary.built_ofCalls _
  have hname : Sample.named.byName? "Role" = some (.ofVendor 9 1 "Role" .string) := by
    decide +kernel
  have hparsed : (AttributeDefinition.ofVendor 9 1 "Role" .string).parseValue "door" =
      .ok (Utf8.encode "door") := by decide +kernel
  obtain ⟨-, hsucceeds, hset, -⟩ := names_read_what_they_set hbuilt Sample.badged "Role" "door"
  obtain ⟨left, hleft⟩ := hsucceeds.mpr ⟨_, _, hname, by decide, hparsed⟩
  obtain ⟨hown, hothers⟩ := hset left hleft
  obtain ⟨definition, bytes, hdefinition, hbytes, hread, htext⟩ := hown (by decide +kernel)
  rw [hname, Option.some.injEq] at hdefinition
  subst hdefinition
  rw [hparsed, Except.ok.injEq] at hbytes
  subst hbytes
  refine ⟨left, hleft, hread, htext.trans (by decide +kernel), ?_, ?_⟩
  · rw [(hothers "Badge" (by decide)).2]
    decide +kernel
  · exact (names_read_what_they_set hbuilt left "Vendor" "00").2.2.2
      { AttributeDefinition.new 26 "Vendor" .octets with kind := .vendorSpecific } (by decide +kernel)

end Radius.Packet
