-- SUMMARY: Whatever calls have made of a dictionary, its tables agree with its definitions, and a call that adds something changes what it says.
import Radius.Proofs.Dictionary.Expansion
import Radius.Proofs.Dictionary.InPlace
import Radius.Proofs.Dictionary.Index

/-!
# Consistent dictionaries

The calls on a dictionary may come in any order, may fail, and may load resources in between.
After any of them both tables lead to the definitions and to nothing else, no two definitions
share a code or a name, and the standard type of containers is reserved. Loading alone gives no
other type the kind of containers, since no keyword names it. A call that fails changes no lookup.
One that adds something changes the lookups of the keys it names, and two more things may happen.
A label takes the place of the one that the value had, and is missed there. And several vendors
may share a name; which of them is met first can change with every vendor that is added.
-/

namespace Radius.Dictionary

/-! ## The invariant -/

/-- The tables lead to the definitions and to nothing else, and every key has one definition. -/
structure Consistent (dictionary : Dictionary) : Prop where
  byCode_lt : ∀ entry ∈ dictionary.byCode.entries, entry.2 < dictionary.definitions.length
  byName_lt : ∀ entry ∈ dictionary.byName.entries, entry.2 < dictionary.definitions.length
  keys_nodup : (dictionary.definitions.map AttributeDefinition.key).Nodup
  names_nodup : (dictionary.definitions.map AttributeDefinition.name).Nodup
  byCode?_iff : ∀ vendor code definition, dictionary.byCode? vendor code = some definition ↔
    definition ∈ dictionary.definitions ∧ definition.vendor = vendor ∧ definition.code = code
  byName?_iff : ∀ name definition, dictionary.byName? name = some definition ↔
    definition ∈ dictionary.definitions ∧ definition.name = name
  lookups_agree : ∀ definition,
    dictionary.byCode? definition.vendor definition.code = some definition ↔
      dictionary.byName? definition.name = some definition
  reservesContainer : dictionary.ReservesContainer
  /-- A vendor is found by its name on some walk, and by no other name on any. -/
  vendorOfName?_iff : ∀ name vendor, (∃ walk, dictionary.vendorOfName? name walk = some vendor) ↔
    dictionary.vendorName? vendor = some name

theorem Built.consistent {dictionary : Dictionary} (h : Built dictionary) :
    dictionary.Consistent where
  byCode_lt _ hentry := h.indexed.byCode.lt_length hentry
  byName_lt _ hentry := h.indexed.byName.lt_length hentry
  keys_nodup := h.indexed.byCode.nodup
  names_nodup := h.indexed.byName.nodup
  byCode?_iff _ _ _ := byCode?_eq_some_iff h.indexed
  byName?_iff _ _ := byName?_eq_some_iff h.indexed
  lookups_agree _ := by rw [byCode?_eq_some_iff h.indexed, byName?_eq_some_iff h.indexed]; simp
  reservesContainer := h.reservesContainer
  vendorOfName?_iff _ _ := exists_vendorOfName?_iff h.vendors_distinct

/-! ## The kind of containers -/

/-- No type but the standard one of containers has their kind. -/
def ContainersOnly (dictionary : Dictionary) : Prop :=
  ∀ definition ∈ dictionary.definitions, definition.kind = .vendorSpecific →
    definition.key = (none, AttributeType.vendorSpecific)

theorem ContainersOnly.add {dictionary extended : Dictionary} {statement : Statement}
    (h : dictionary.ContainersOnly) (hindexed : dictionary.Indexed)
    (hplain : ∀ definition, statement = .define definition → definition.kind ≠ .vendorSpecific)
    (hextended : statement.apply dictionary = .ok extended) : extended.ContainersOnly := by
  cases statement with
  | define definition =>
      obtain ⟨-, -, rfl⟩ := define_eq_ok_iff.mp hextended
      intro present hpresent hkind
      rcases List.mem_append.mp hpresent with hold | hnew
      · exact h present hold hkind
      · cases List.mem_singleton.mp hnew
        rw [key_reserveContainer]
        unfold reserveContainer at hkind
        split at hkind
        · rename_i hreserved
          exact Prod.ext hreserved.1 hreserved.2
        · exact absurd hkind (hplain definition rfl)
  | label name value text =>
      obtain ⟨-, rfl⟩ := (label_eq_ok_iff hindexed).mp hextended
      intro present hpresent hkind
      obtain ⟨definition, hdefinition, rfl⟩ := List.mem_map.mp hpresent
      rw [kind_relabel] at hkind
      rw [key_relabel]
      exact h definition hdefinition hkind
  | nameVendor vendor name =>
      obtain ⟨-, rfl⟩ | ⟨-, rfl⟩ := nameVendor_eq_ok_iff.mp hextended
      · exact h
      · exact h
  | inclusion target =>
      cases hextended
      exact h

/-- The statements of lines give no other type the kind of containers. -/
theorem ContainersOnly.perform {dictionary : Dictionary} (h : dictionary.ContainersOnly)
    (hindexed : dictionary.Indexed) (lines : List (List Char)) :
    (dictionary.perform (Line.statements lines)).ContainersOnly := by
  refine (perform_keeps (P := fun dictionary => dictionary.Indexed ∧ dictionary.ContainersOnly)
    ?_ ⟨hindexed, h⟩).2
  rintro statement hstatement dictionary extended ⟨hindexed, hcontainers⟩ hextended
  refine ⟨hindexed.add hextended, hcontainers.add hindexed ?_ hextended⟩
  rintro definition rfl
  exact (Line.plain_of_mem_statements hstatement).1

theorem containersOnly_ofCalls {calls : List Call} (hloads : ∀ call ∈ calls, call.isLoad) :
    (ofCalls calls).ContainersOnly := by
  refine (ofCalls_keeps (P := fun dictionary => dictionary.Indexed ∧ dictionary.ContainersOnly)
    ⟨indexed_empty, fun _ hmem => by cases hmem⟩ ?_).2
  rintro call hcall dictionary made ⟨hindexed, hcontainers⟩ hmade
  cases call with
  | load source resource =>
      obtain ⟨loading, hloading, rfl⟩ := Except.map_eq_ok_iff.mp hmade
      obtain ⟨lines, -, hperformed⟩ := dictionary_of_load hloading
      rw [hperformed]
      exact ⟨hindexed.perform _, hcontainers.perform hindexed lines⟩
  | _ => cases hloads _ hcall

/-! ## What a call changes -/

/-- What an adding call that succeeds makes of the lookups. It changes those of the keys that it
names. A label changes the lookups in one definition: that of the value, that of the label, and that
of the label which the value had. A vendor changes the lookups of its number and of its name, and by
any other name the same vendors can be found, which is the same vendor if only one has the name. -/
def Call.Changes (before after : Dictionary) : Call → Prop
  | .define definition =>
      (∀ vendor code, after.byCode? vendor code =
        if (vendor, code) = definition.key then some (reserveContainer definition)
        else before.byCode? vendor code) ∧
      (∀ name, after.byName? name =
        if name = definition.name then some (reserveContainer definition)
        else before.byName? name) ∧
      after.vendors = before.vendors
  | .label name value text =>
      ∃ definition, before.byName? name = some definition ∧
        (∀ vendor code, after.byCode? vendor code =
          if (vendor, code) = definition.key then some (definition.setLabel value text)
          else before.byCode? vendor code) ∧
        (∀ other, after.byName? other =
          if other = name then some (definition.setLabel value text) else before.byName? other) ∧
        (∀ other, (definition.setLabel value text).labels.label? other =
          if other = value then some text else definition.labels.label? other) ∧
        (∀ other, other ≠ text → definition.labels.label? value ≠ some other →
          (definition.setLabel value text).labels.value? other = definition.labels.value? other) ∧
        after.vendors = before.vendors
  | .nameVendor vendor name =>
      after.byCode? = before.byCode? ∧ after.byName? = before.byName? ∧
        (∀ other, after.vendorName? other =
          if other = vendor then some name else before.vendorName? other) ∧
        ∀ other, other ≠ name →
          (∀ found, (∃ walk, after.vendorOfName? other walk = found) ↔
            ∃ walk, before.vendorOfName? other walk = found) ∧
          ((∀ left right, before.vendorName? left = some other →
              before.vendorName? right = some other → left = right) →
            ∀ walk walk', after.vendorOfName? other walk = before.vendorOfName? other walk')
  | .load .. => True

/-- By a name that is not given away, the same vendors can be found afterwards. -/
theorem vendorOfName?_nameVendor {before after : Dictionary} {vendor : UInt32} {name other : String}
    (hdistinct : before.vendors.Distinct) (hdistinct' : after.vendors.Distinct)
    (hafter : before.nameVendor vendor name = .ok after) (hother : other ≠ name) :
    (∀ found, (∃ walk, after.vendorOfName? other walk = found) ↔
      ∃ walk, before.vendorOfName? other walk = found) ∧
    ((∀ left right, before.vendorName? left = some other →
        before.vendorName? right = some other → left = right) →
      ∀ walk walk', after.vendorOfName? other walk = before.vendorOfName? other walk') := by
  have hsame := vendorName?_nameVendor_iff hafter hother
  refine ⟨fun found => ?_, vendorOfName?_eq_of_unique hdistinct hdistinct' hsame⟩
  cases found with
  | none => simp only [vendorOfName?_eq_none_iff hdistinct, vendorOfName?_eq_none_iff hdistinct',
      ne_eq, hsame]
  | some vendor' =>
      rw [exists_vendorOfName?_iff hdistinct, exists_vendorOfName?_iff hdistinct', hsame]

theorem Call.changes_of_result {call : Call} {before after : Dictionary} (hbuilt : before.Built)
    (hafter : call.result before = .ok after) : call.Changes before after := by
  have h := hbuilt.indexed
  cases call with
  | define definition =>
      refine ⟨byCode?_define h hafter, byName?_define h hafter, ?_⟩
      obtain ⟨-, -, rfl⟩ := define_eq_ok_iff.mp hafter
      rfl
  | label name value text =>
      have hlabelled : after.vendors = before.vendors := by
        obtain ⟨-, rfl⟩ := (label_eq_ok_iff h).mp hafter
        rfl
      obtain ⟨definition, hdefinition⟩ :=
        Option.ne_none_iff_exists'.mp ((label_eq_ok_iff h).mp hafter).1
      exact ⟨definition, hdefinition, byCode?_label_of_found h hdefinition hafter,
        byName?_label_of_found h hdefinition hafter,
        fun other => Labels.label?_insert definition.labels value other text,
        fun other hother hold => Labels.value?_insert_of_ne hother hold, hlabelled⟩
  | nameVendor vendor name =>
      obtain ⟨hcode, hname⟩ := byCode?_nameVendor hafter
      have hdistinct := hbuilt.vendors_distinct
      have hdistinct' := (Call.built_result hbuilt hafter).vendors_distinct
      exact ⟨hcode, hname, vendorName?_nameVendor hafter,
        fun _ hother => vendorOfName?_nameVendor hdistinct hdistinct' hafter hother⟩
  | load source resource => trivial

/-! ## Which calls succeed -/

/-- What a call needs to succeed: free keys, a name that is known, a vendor without another name,
or a resource that can be read. -/
def Call.Admitted (dictionary : Dictionary) : Call → Prop
  | .define definition =>
      dictionary.byCode? definition.vendor definition.code = none ∧
        dictionary.byName? definition.name = none
  | .label name _ _ => dictionary.byName? name ≠ none
  | .nameVendor vendor name => ∀ known, dictionary.vendorName? vendor = some known → known = name
  | .load source resource => ∃ bytes, source.read resource = .ok bytes

theorem Call.exists_result_iff {dictionary : Dictionary} (h : dictionary.Indexed) (call : Call) :
    (∃ made, call.result dictionary = .ok made) ↔ call.Admitted dictionary := by
  cases call with
  | define definition => exact define_eq_ok_iff_of_free h
  | label name value text =>
      simp only [result, label_eq_ok_iff h, exists_and_left, exists_eq, and_true]
      rfl
  | nameVendor vendor name =>
      simp only [result, nameVendor_eq_ok_iff, Admitted, vendorName?]
      cases dictionary.vendors.find? vendor with
      | none => simp
      | some known => simp
  | load source resource =>
      constructor
      · rintro ⟨made, hmade⟩
        obtain ⟨loading, hloading, -⟩ := Except.map_eq_ok_iff.mp hmade
        exact Loading.exists_readTo_eq_ok_iff.mp ⟨loading, hloading⟩
      · intro hread
        obtain ⟨loading, hloading⟩ := Loading.exists_readTo_eq_ok_iff.mpr hread
        exact ⟨loading.dictionary, Except.map_eq_ok_iff.mpr ⟨loading, hloading, rfl⟩⟩

/-! ## All calls -/

/-- After any calls, those that fail and those that load included, the dictionary is consistent;
after loads alone nothing else is a container. The next call succeeds exactly if it is admitted;
one that fails leaves the dictionary as it was, and one that adds something makes of the lookups
what it says, and no more than that. -/
theorem calls_keep_consistent (calls : List Call) :
    (ofCalls calls).Consistent ∧
    ((∀ call ∈ calls, call.isLoad) → (ofCalls calls).ContainersOnly) ∧
    (∀ call : Call, (∃ after, call.update.outcome (ofCalls calls) = (.ok (), after)) ↔
      call.Admitted (ofCalls calls)) ∧
    (∀ (call : Call) fault after, call.update.outcome (ofCalls calls) = (.error fault, after) →
      after = ofCalls calls) ∧
    ∀ (call : Call) after, call.update.outcome (ofCalls calls) = (.ok (), after) →
      call.Changes (ofCalls calls) after := by
  have hbuilt := built_ofCalls calls
  refine ⟨hbuilt.consistent, containersOnly_ofCalls, ?_, ?_, ?_⟩
  · intro call
    simp only [Call.outcome_update, Update.settle_eq_ok_iff]
    exact call.exists_result_iff hbuilt.indexed
  · intro call fault after houtcome
    rw [Call.outcome_update, Update.settle_eq_error_iff] at houtcome
    exact houtcome.2
  · intro call after houtcome
    rw [Call.outcome_update, Update.settle_eq_ok_iff] at houtcome
    exact Call.changes_of_result hbuilt houtcome

/-- A load of a resource that includes another one. -/
def Sample.loads : List Call := [.load Sample.resources.source "vendor/acme"]

theorem sample_calls_keep_consistent :
    (ofCalls Sample.loads).ContainersOnly ∧
    (ofCalls Sample.loads).byName? "Role" = (ofCalls Sample.loads).byCode? (some 9) 1 ∧
    (Call.define (.new 7 "Role" .string)).update.outcome (ofCalls Sample.loads) =
      (.error (.duplicateName "Role"), ofCalls Sample.loads) ∧
    ∃ after, (Call.label "Role" 2 "Guest").update.outcome (ofCalls Sample.loads) = (.ok (), after) ∧
      (Call.label "Role" 2 "Guest").Changes (ofCalls Sample.loads) after := by
  obtain ⟨hconsistent, hcontainers, hadmitted, hfails, hchanges⟩ :=
    calls_keep_consistent Sample.loads
  have hrole : (ofCalls Sample.loads).byName? "Role" =
      some (.ofVendor 9 1 "Role" .string) := by decide +kernel
  have hrefused : ((Call.define (.new 7 "Role" .string)).update.outcome (ofCalls Sample.loads)).1 =
      .error (.duplicateName "Role") := by decide +kernel
  obtain ⟨after, hafter⟩ := (hadmitted (.label "Role" 2 "Guest")).mpr
    (by rw [Call.Admitted, hrole]; exact Option.some_ne_none _)
  refine ⟨hcontainers (by decide), ?_, ?_, after, hafter, hchanges _ _ hafter⟩
  · exact hrole.trans ((hconsistent.lookups_agree (.ofVendor 9 1 "Role" .string)).mpr hrole).symm
  · exact Prod.ext hrefused (hfails _ _ _ (Prod.ext hrefused rfl))

/-! ## Lookups by other keys

Two vendors share a name, and a table that grows is gone through in another order. A value gets
another label than the one it has. -/

namespace Sample

def vendors : List Call :=
  [.nameVendor 9 "Twin", .nameVendor 10 "Twin", .nameVendor 11 "Other"]

/-- Up to three entries are met from the first to the last, and more of them the other way round. -/
def turning : Table.Walk (UInt32 × String) where
  visit entries := if entries.length ≤ 3 then entries else entries.reverse
  visit_perm entries := by
    split
    · exact .refl _
    · exact entries.reverse_perm

def labels : List Call := [.define (.new 5 "Role" .integer), .label "Role" 3 "Guest"]

end Sample

/-- A call that succeeds may change lookups by keys that it does not name: of the vendor of a name,
and of the value of a label. -/
theorem sample_changes_other_lookups :
    (∃ after,
      (Call.nameVendor 12 "Late").update.outcome (ofCalls Sample.vendors) = (.ok (), after) ∧
        (ofCalls Sample.vendors).vendorOfName? "Twin" Sample.turning = some 9 ∧
        after.vendorOfName? "Twin" Sample.turning = some 10) ∧
    ∃ after,
      (Call.label "Role" 3 "Owner").update.outcome (ofCalls Sample.labels) = (.ok (), after) ∧
        ((ofCalls Sample.labels).byName? "Role").map (·.labels.value? "Guest") = some (some 3) ∧
        (after.byName? "Role").map (·.labels.value? "Guest") = some none := by
  have hvendor : ((Call.nameVendor 12 "Late").update.outcome (ofCalls Sample.vendors)).1 =
      .ok () := by decide +kernel
  have hlabel : ((Call.label "Role" 3 "Owner").update.outcome (ofCalls Sample.labels)).1 =
      .ok () := by decide +kernel
  refine ⟨⟨_, Prod.ext hvendor rfl, ?_, ?_⟩, _, Prod.ext hlabel rfl, ?_, ?_⟩
  · decide +kernel
  · decide +kernel
  · decide +kernel
  · decide +kernel

end Radius.Dictionary
