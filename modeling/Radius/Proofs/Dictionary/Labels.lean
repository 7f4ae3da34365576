-- SUMMARY: When the text of a number is read back as that number: labels that tell values apart, and that are not the digits of a value without one.
import Radius.Dictionary.Basic
import Radius.Proofs.Value.Forms

/-!
# Labels and numbers

A number is written as its label if it has one, and in digits otherwise; what is read is a label
first, and digits only where no value has the text for its label. Of several values with one label
the smallest is read. So a text stands for the number it was written for unless two values share a
label, or a label is made of the digits of a value that has none.
-/

namespace Radius

/-! ## Labels in order -/

namespace Labels

/-- The values rise, so each of them has one label. -/
def Ordered (labels : Labels) : Prop := labels.Pairwise (fun entry other => entry.1 < other.1)

theorem ordered_nil : Ordered [] := List.Pairwise.nil

theorem mem_insert {labels : Labels} {value : UInt32} {text : String} {entry : UInt32 × String}
    (h : entry ∈ labels.insert value text) : entry = (value, text) ∨ entry ∈ labels := by
  induction labels with
  | nil => exact .inl (List.mem_singleton.mp h)
  | cons first later ih =>
      unfold insert at h
      split at h
      · exact List.mem_cons.mp h
      · split at h
        · exact (List.mem_cons.mp h).imp_right (List.mem_cons_of_mem _)
        · rcases List.mem_cons.mp h with rfl | hlater
          · exact .inr List.mem_cons_self
          · exact (ih hlater).imp_right (List.mem_cons_of_mem _)

theorem Ordered.insert {labels : Labels} (h : labels.Ordered) (value : UInt32) (text : String) :
    (labels.insert value text).Ordered := by
  induction labels with
  | nil => exact List.pairwise_singleton _ _
  | cons first later ih =>
      obtain ⟨hfirst, hlater⟩ := List.pairwise_cons.mp h
      unfold Labels.insert
      split
      · rename_i hless
        refine List.pairwise_cons.mpr ⟨List.forall_mem_cons.mpr ⟨hless, ?_⟩, h⟩
        exact fun entry hentry => UInt32.lt_trans hless (hfirst entry hentry)
      · rename_i hless
        split
        · rename_i hsame
          exact List.pairwise_cons.mpr ⟨fun entry hentry => hsame ▸ hfirst entry hentry, hlater⟩
        · rename_i hother
          refine List.pairwise_cons.mpr ⟨fun entry hentry => ?_, ih hlater⟩
          rcases mem_insert hentry with rfl | hold
          · exact UInt32.lt_of_le_of_ne (UInt32.not_lt.mp hless) (Ne.symm hother)
          · exact hfirst entry hold

/-- Labels that are given one after the other are in order. -/
theorem ordered_foldl_insert (entries : List (UInt32 × String)) :
    Ordered (entries.foldl (fun labels entry => labels.insert entry.1 entry.2) []) :=
  List.foldlRecOn (motive := Ordered) entries _ ordered_nil
    fun _ hlabels entry _ => hlabels.insert entry.1 entry.2

section

variable {labels : Labels} (h : labels.Ordered)
include h

theorem label?_eq_some_iff {value : UInt32} {text : String} :
    labels.label? value = some text ↔ (value, text) ∈ labels := by
  induction labels with
  | nil => simp [label?]
  | cons first later ih =>
      obtain ⟨hfirst, hlater⟩ := List.pairwise_cons.mp h
      rw [label?, List.find?_cons, List.mem_cons]
      by_cases hvalue : first.1 = value
      · have hno : (value, text) ∉ later :=
          fun hmem => UInt32.ne_of_lt (hfirst _ hmem) hvalue
        simp [hvalue, hno, Prod.ext_iff, eq_comm]
      · have hne : (value, text) ≠ first := fun hsame => hvalue (congrArg Prod.fst hsame).symm
        simpa [hvalue, hne, label?] using ih hlater

/-- The value that is found for a label is the smallest that has it. -/
theorem value?_eq_some_iff {value : UInt32} {text : String} :
    labels.value? text = some value ↔
      labels.label? value = some text ∧
        ∀ other, labels.label? other = some text → value ≤ other := by
  simp only [label?_eq_some_iff h]
  induction labels with
  | nil => simp [value?]
  | cons first later ih =>
      obtain ⟨hfirst, hlater⟩ := List.pairwise_cons.mp h
      rw [value?, List.find?_cons]
      by_cases htext : first.2 = text
      · -- Every other value with the label stands behind this one.
        simp only [htext, decide_true, Option.map_some, Option.some.injEq]
        constructor
        · rintro rfl
          refine ⟨htext ▸ List.mem_cons_self, fun other hother => ?_⟩
          rcases List.mem_cons.mp hother with hsame | hbehind
          · exact hsame ▸ UInt32.le_refl _
          · exact UInt32.le_of_lt (hfirst _ hbehind)
        · rintro ⟨hmem, hleast⟩
          rcases List.mem_cons.mp hmem with hsame | hbehind
          · exact hsame ▸ rfl
          · have hle := hleast first.1 (htext ▸ List.mem_cons_self)
            exact absurd (hfirst _ hbehind) (UInt32.not_lt.mpr hle)
      · have hne : ∀ other, (other, text) ≠ first :=
          fun other hsame => htext (congrArg Prod.snd hsame).symm
        simpa [htext, hne, value?] using ih hlater

theorem value?_eq_none_iff {text : String} :
    labels.value? text = none ↔ ∀ value, labels.label? value ≠ some text := by
  simp only [Ne, label?_eq_some_iff h, value?, Option.map_eq_none_iff, List.find?_eq_none,
    decide_eq_true_eq]
  exact ⟨fun hnone value hmem => hnone _ hmem rfl,
    fun hnone entry hentry htext => hnone entry.1 (htext ▸ hentry)⟩

end

/-- No label stands for two values, and none is made of the digits of a value without a label. -/
structure Distinguishes (labels : Labels) : Prop where
  eq_of_label : ∀ value other text, labels.label? value = some text →
    labels.label? other = some text → value = other
  labelled_of_digits : ∀ value other, labels.label? value = some (toString other.toNat) →
    labels.label? other ≠ none

end Labels

/-! ## The text of a number -/

namespace Value

theorem integerBytes_inj {value other : UInt32} :
    integerBytes value = integerBytes other ↔ value = other := by
  constructor
  · intro h
    have hword := congrArg (fun bytes => UInt32.ofNat (Bytes.toNat bytes)) h
    simpa only [integerBytes, Bytes.ofNat_word] using hword
  · rintro rfl
    rfl

/-- Four octets are those of a number. -/
theorem exists_integerBytes_eq {bytes : Bytes} (h : bytes.length = 4) :
    ∃ value, integerBytes value = bytes :=
  ⟨UInt32.ofNat bytes.toNat, Bytes.ofNat_toNat_word h⟩

end Value

namespace AttributeDefinition

section

variable {definition : AttributeDefinition} (hkind : definition.kind = .integer)
include hkind

theorem formatValue_integerBytes (value : UInt32) :
    definition.formatValue (Value.integerBytes value) =
      (definition.labels.label? value).getD (toString value.toNat) := by
  have hdecoded : Kind.integer.decode (Value.integerBytes value) = .ok (.integer value) :=
    Except.map_eq_ok_iff.mpr ⟨value, Kind.decodeInteger_eq_ok_iff.mpr rfl, rfl⟩
  rw [formatValue, hkind, hdecoded]

theorem parseValue_of_value? {text : String} {value : UInt32}
    (h : definition.labels.value? text = some value) :
    definition.parseValue text = .ok (Value.integerBytes value) := by
  rw [parseValue, hkind, h]

theorem parseValue_of_none {text : String} (h : definition.labels.value? text = none) :
    definition.parseValue text = Kind.integer.parse text := by
  rw [parseValue, hkind, h]

variable (hordered : definition.labels.Ordered)
include hordered

/-- A number is read back from its label if no smaller one has the label, and from its digits if no
number has them for a label. -/
theorem parseValue_formatValue_iff {value : UInt32} :
    definition.parseValue (definition.formatValue (Value.integerBytes value)) =
        .ok (Value.integerBytes value) ↔
      match definition.labels.label? value with
      | some text => definition.labels.value? text = some value
      | none      => definition.labels.value? (toString value.toNat) = none := by
  rw [formatValue_integerBytes hkind]
  cases hlabel : definition.labels.label? value with
  | some text =>
      rw [Option.getD_some]
      cases hvalue : definition.labels.value? text with
      | none => exact absurd hlabel ((Labels.value?_eq_none_iff hordered).mp hvalue value)
      | some found =>
          dsimp only
          rw [parseValue_of_value? hkind hvalue, Except.ok.injEq, Value.integerBytes_inj, hvalue,
            Option.some.injEq]
  | none =>
      rw [Option.getD_none]
      cases hvalue : definition.labels.value? (toString value.toNat) with
      | none =>
          have hdigits : Kind.integer.parse (Value.integer value).toText =
              .ok (Value.integer value).toBytes := by
            rw [Kind.parse, (Kind.Has.integer value).parseValue_toText]
            rfl
          rw [parseValue_of_none hkind hvalue]
          exact iff_of_true hdigits rfl
      | some found =>
          -- The number that is read has the digits for its label, and this one has none.
          have hfound := ((Labels.value?_eq_some_iff hordered).mp hvalue).1
          rw [parseValue_of_value? hkind hvalue, Except.ok.injEq, Value.integerBytes_inj]
          refine iff_of_false (fun hsame => ?_) (Option.some_ne_none found)
          rw [hsame, hlabel] at hfound
          cases hfound

/-- All numbers are read back exactly if the labels tell values apart. -/
theorem forall_parseValue_formatValue_iff :
    (∀ value, definition.parseValue (definition.formatValue (Value.integerBytes value)) =
        .ok (Value.integerBytes value)) ↔ definition.labels.Distinguishes := by
  simp only [parseValue_formatValue_iff hkind hordered]
  constructor
  · intro hall
    constructor
    · intro value other text hvalue hother
      have hfirst := hall value
      have hsecond := hall other
      rw [hvalue] at hfirst
      rw [hother] at hsecond
      dsimp only at hfirst hsecond
      rw [hfirst, Option.some.injEq] at hsecond
      exact hsecond
    · intro value other hdigits hnone
      have hother := hall other
      rw [hnone] at hother
      exact (Labels.value?_eq_none_iff hordered).mp hother value hdigits
  · intro hlabels value
    cases hlabel : definition.labels.label? value with
    | some text =>
        refine (Labels.value?_eq_some_iff hordered).mpr ⟨hlabel, fun other hother => ?_⟩
        rw [hlabels.eq_of_label value other text hlabel hother]
        exact UInt32.le_refl _
    | none =>
        exact (Labels.value?_eq_none_iff hordered).mpr fun other hdigits =>
          hlabels.labelled_of_digits other value hdigits hlabel

end

end AttributeDefinition
end Radius
