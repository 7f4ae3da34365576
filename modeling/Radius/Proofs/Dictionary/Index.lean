-- SUMMARY: The index tables of a dictionary lead to every definition by its code and by its name, and to nothing else; what each statement makes of the lookups.
import Radius.Proofs.Dictionary.Built

/-!
# The index tables of a dictionary

Beside its definitions a dictionary keeps two tables of places. Each of them is the inverse of the
list: a key leads to a place exactly if the definition that stands there has the key. So no key has
two definitions, a lookup finds what is registered, and both lookups find the same. Every statement
keeps the tables so, and what it makes of the lookups can be said without them.
-/

namespace Radius

/-! ## Tables of places -/

/-- A table gives for each key the place of the item that has it. -/
structure Table.Indexes {κ α : Type} [DecidableEq κ] (table : Table κ Nat) (keyOf : α → κ)
    (items : List α) : Prop where
  distinct : table.Distinct
  find?_iff : ∀ key index, table.find? key = some index ↔
    ∃ item, items[index]? = some item ∧ keyOf item = key

namespace Table.Indexes

variable {κ α : Type} [DecidableEq κ] {table : Table κ Nat} {keyOf : α → κ} {items : List α}

theorem empty : (Table.empty : Table κ Nat).Indexes keyOf [] :=
  ⟨distinct_empty, fun key index => by simp⟩

variable (h : table.Indexes keyOf items)
include h

theorem lt_length {entry : κ × Nat} (hentry : entry ∈ table.entries) : entry.2 < items.length := by
  obtain ⟨item, hitem, -⟩ := (h.find?_iff entry.1 entry.2).mp (h.distinct.find?_of_mem hentry)
  exact (List.getElem?_eq_some_iff.mp hitem).1

/-- No two items have the same key. -/
theorem nodup : (items.map keyOf).Nodup := by
  rw [List.nodup_iff_pairwise_ne, List.pairwise_iff_getElem]
  intro i j hi hj hlt heq
  rw [List.length_map] at hi hj
  rw [List.getElem_map, List.getElem_map] at heq
  have hfirst := (h.find?_iff _ i).mpr ⟨items[i], List.getElem?_eq_getElem hi, rfl⟩
  have hsecond := (h.find?_iff _ j).mpr ⟨items[j], List.getElem?_eq_getElem hj, rfl⟩
  rw [heq, hsecond, Option.some.injEq] at hfirst
  omega

/-- A lookup finds the item that has the key. -/
theorem lookup_eq_some_iff {key : κ} {item : α} :
    (table.find? key).bind (items[·]?) = some item ↔ item ∈ items ∧ keyOf item = key := by
  constructor
  · intro hlookup
    obtain ⟨index, hindex, hitem⟩ := Option.bind_eq_some_iff.mp hlookup
    obtain ⟨found, hfound, hkey⟩ := (h.find?_iff key index).mp hindex
    rw [hitem, Option.some.injEq] at hfound
    subst hfound
    exact ⟨List.mem_of_getElem? hitem, hkey⟩
  · rintro ⟨hmem, hkey⟩
    obtain ⟨index, hindex⟩ := List.mem_iff_getElem?.mp hmem
    rw [(h.find?_iff key index).mpr ⟨item, hindex, hkey⟩]
    exact hindex

theorem lookup_eq_none_iff {key : κ} :
    (table.find? key).bind (items[·]?) = none ↔ table.find? key = none := by
  constructor
  · intro hlookup
    cases hindex : table.find? key with
    | none => rfl
    | some index =>
        obtain ⟨item, hitem, -⟩ := (h.find?_iff key index).mp hindex
        rw [hindex, Option.bind_some, hitem] at hlookup
        cases hlookup
  · intro hindex
    rw [hindex]
    rfl

/-- An item with a free key goes to the end. -/
theorem concat (item : α) (hfree : table.find? (keyOf item) = none) :
    (table.insert (keyOf item) items.length).Indexes keyOf (items ++ [item]) := by
  refine ⟨h.distinct.insert _ _, fun key index => ?_⟩
  rw [find?_insert, List.getElem?_append, List.getElem?_singleton]
  split
  · rename_i hkey
    subst hkey
    constructor
    · rintro ⟨⟩
      exact ⟨item, by simp, rfl⟩
    · rintro ⟨found, hfound, hsame⟩
      split at hfound
      · -- Nothing in the old list has this key.
        have hold := (h.find?_iff _ index).mpr ⟨found, hfound, hsame⟩
        rw [hfree] at hold
        cases hold
      · split at hfound
        · rw [Option.some.injEq]
          omega
        · cases hfound
  · rename_i hkey
    rw [h.find?_iff]
    constructor
    · rintro ⟨found, hfound, hsame⟩
      rw [if_pos (List.getElem?_eq_some_iff.mp hfound).1]
      exact ⟨found, hfound, hsame⟩
    · rintro ⟨found, hfound, hsame⟩
      split at hfound
      · exact ⟨found, hfound, hsame⟩
      · split at hfound
        · cases hfound
          exact absurd hsame.symm hkey
        · cases hfound

/-- The new item is found under its key, and nothing else changes. -/
theorem lookup_concat (item : α) (key : κ) :
    ((table.insert (keyOf item) items.length).find? key).bind ((items ++ [item])[·]?) =
      if key = keyOf item then some item else (table.find? key).bind (items[·]?) := by
  rw [find?_insert]
  split
  · simp
  · cases hindex : table.find? key with
    | none => rfl
    | some index =>
        obtain ⟨found, hfound, -⟩ := (h.find?_iff key index).mp hindex
        simp [List.getElem?_append, (List.getElem?_eq_some_iff.mp hfound).1]

/-- The items may change in what is no part of their keys. -/
theorem map {change : α → α} (hkey : ∀ item, keyOf (change item) = keyOf item) :
    table.Indexes keyOf (items.map change) := by
  refine ⟨h.distinct, fun key index => ?_⟩
  rw [h.find?_iff, List.getElem?_map]
  constructor
  · rintro ⟨item, hitem, hsame⟩
    exact ⟨change item, by rw [hitem]; rfl, (hkey item).trans hsame⟩
  · rintro ⟨changed, hchanged, hsame⟩
    obtain ⟨item, hitem, rfl⟩ := Option.map_eq_some_iff.mp hchanged
    exact ⟨item, hitem, (hkey item).symm.trans hsame⟩

/-- To change the item at the place of a key is to change the item that has the key. -/
theorem modify_eq_map {key : κ} {index : Nat} (hindex : table.find? key = some index)
    (change : α → α) :
    items.modify index change = items.map (fun item => if keyOf item = key then change item else item) := by
  apply List.ext_getElem?
  intro place
  rw [List.getElem?_modify, List.getElem?_map]
  cases hitem : items[place]? with
  | none => simp
  | some item =>
      have hplace : index = place ↔ keyOf item = key := by
        constructor
        · rintro rfl
          obtain ⟨found, hfound, hkey⟩ := (h.find?_iff key index).mp hindex
          rw [hitem, Option.some.injEq] at hfound
          rw [hfound, hkey]
        · intro hkey
          have hother := (h.find?_iff key place).mpr ⟨item, hitem, hkey⟩
          rw [hindex, Option.some.injEq] at hother
          exact hother
      simp only [hplace, Option.map_some]
      split <;> rfl

end Table.Indexes

/-! ## Labels -/

namespace Labels

theorem label?_insert (labels : Labels) (value other : UInt32) (text : String) :
    (labels.insert value text).label? other = if other = value then some text else labels.label? other := by
  induction labels with
  | nil => by_cases h : value = other <;> simp [insert, label?, h, eq_comm]
  | cons entry later ih =>
      simp only [label?] at ih ⊢
      unfold insert
      split
      · by_cases h : value = other <;> simp [h, eq_comm]
      split
      · rename_i hsame
        by_cases h : value = other
        · simp [h]
        · have hentry : ¬ entry.1 = other := fun he => h (hsame.trans he)
          have hother : ¬ other = value := fun he => h he.symm
          simp [h, hentry, hother]
      · rename_i hsame
        by_cases h : entry.1 = other
        · have hother : ¬ other = value := fun he => hsame (h.trans he).symm
          simp [h, hother]
        · simpa [h] using ih

/-- What is found by another label does not change, unless the value had that label. -/
theorem value?_insert_of_ne {labels : Labels} {value : UInt32} {text other : String}
    (hother : other ≠ text) (hold : labels.label? value ≠ some other) :
    (labels.insert value text).value? other = labels.value? other := by
  induction labels with
  | nil => simp [insert, value?, Ne.symm hother]
  | cons entry later ih =>
      simp only [label?, value?] at ih hold ⊢
      unfold insert
      split
      · simp [Ne.symm hother]
      split
      · rename_i hsame
        have hentry : entry.2 ≠ other := by simpa [hsame] using hold
        simp [Ne.symm hother, hentry]
      · rename_i hsame
        by_cases h : entry.2 = other
        · simp [h]
        · simpa [h] using ih (by simpa [Ne.symm hsame] using hold)

end Labels

/-- The definition without its labels. -/
def AttributeDefinition.bare (definition : AttributeDefinition) : AttributeDefinition :=
  { definition with labels := [] }

theorem AttributeDefinition.eq_of_bare_eq {left right : AttributeDefinition}
    (h : left.bare = right.bare) :
    left.key = right.key ∧ left.name = right.name ∧ left.kind = right.kind :=
  ⟨(congrArg key h : left.bare.key = right.bare.key),
    (congrArg AttributeDefinition.name h : left.bare.name = right.bare.name),
    (congrArg AttributeDefinition.kind h : left.bare.kind = right.bare.kind)⟩

namespace Dictionary

/-- The definition with a label for a value if it has this name, else as it is. -/
def relabel (name : String) (value : UInt32) (text : String) (definition : AttributeDefinition) :
    AttributeDefinition :=
  if definition.name = name then definition.setLabel value text else definition

theorem relabel_of_name_ne {name text : String} {value : UInt32} {definition : AttributeDefinition}
    (hname : definition.name ≠ name) : relabel name value text definition = definition :=
  if_neg hname

section

variable (name : String) (value : UInt32) (text : String) (definition : AttributeDefinition)

@[simp] theorem bare_relabel : (relabel name value text definition).bare = definition.bare := by
  unfold relabel
  split <;> rfl

@[simp] theorem key_relabel : (relabel name value text definition).key = definition.key :=
  (AttributeDefinition.eq_of_bare_eq (bare_relabel name value text definition)).1

@[simp] theorem name_relabel : (relabel name value text definition).name = definition.name :=
  (AttributeDefinition.eq_of_bare_eq (bare_relabel name value text definition)).2.1

@[simp] theorem kind_relabel : (relabel name value text definition).kind = definition.kind :=
  (AttributeDefinition.eq_of_bare_eq (bare_relabel name value text definition)).2.2

end

@[simp] theorem key_reserveContainer (definition : AttributeDefinition) :
    (reserveContainer definition).key = definition.key := by
  unfold reserveContainer
  split <;> rfl

@[simp] theorem name_reserveContainer (definition : AttributeDefinition) :
    (reserveContainer definition).name = definition.name := by
  unfold reserveContainer
  split <;> rfl

@[simp] theorem labels_reserveContainer (definition : AttributeDefinition) :
    (reserveContainer definition).labels = definition.labels := by
  unfold reserveContainer
  split <;> rfl

/-! ## The two tables -/

/-- Both tables lead to the definitions. -/
structure Indexed (dictionary : Dictionary) : Prop where
  byCode : dictionary.byCode.Indexes AttributeDefinition.key dictionary.definitions
  byName : dictionary.byName.Indexes AttributeDefinition.name dictionary.definitions

section

variable {dictionary extended : Dictionary}

theorem define_eq_ok_iff {definition : AttributeDefinition} :
    dictionary.define definition = .ok extended ↔
      dictionary.byCode.find? definition.key = none ∧
        dictionary.byName.find? definition.name = none ∧
        extended = { dictionary with
          definitions := dictionary.definitions ++ [reserveContainer definition]
          byCode := dictionary.byCode.insert definition.key dictionary.definitions.length
          byName := dictionary.byName.insert definition.name dictionary.definitions.length } := by
  simp only [define, Table.contains, Option.isSome_iff_ne_none]
  by_cases hcode : dictionary.byCode.find? definition.key = none
  · by_cases hname : dictionary.byName.find? definition.name = none
    · simp [hcode, hname, eq_comm]
    · simp [hcode, hname]
  · simp [hcode]

theorem nameVendor_eq_ok_iff {vendor : UInt32} {name : String} :
    dictionary.nameVendor vendor name = .ok extended ↔
      (dictionary.vendors.find? vendor = some name ∧ extended = dictionary) ∨
        (dictionary.vendors.find? vendor = none ∧
          extended = { dictionary with vendors := dictionary.vendors.insert vendor name }) := by
  unfold nameVendor
  cases hvendor : dictionary.vendors.find? vendor with
  | none => simp [eq_comm]
  | some known =>
      by_cases hknown : known = name
      · simp [hknown, eq_comm]
      · simp [hknown]

variable (h : dictionary.Indexed)
include h

/-- A label is given to the definition that has the name. -/
theorem label_eq_ok_iff {name text : String} {value : UInt32} :
    dictionary.label name value text = .ok extended ↔
      dictionary.byName? name ≠ none ∧
        extended = { dictionary with
          definitions := dictionary.definitions.map (relabel name value text) } := by
  rw [Ne, byName?, h.byName.lookup_eq_none_iff]
  unfold label
  cases hindex : dictionary.byName.find? name with
  | none => simp
  | some index =>
      simp only [h.byName.modify_eq_map hindex, Except.ok.injEq, reduceCtorEq, not_false_eq_true,
        true_and]
      exact eq_comm

/-- Every statement keeps the tables. -/
theorem Indexed.add {statement : Statement} (hextended : statement.apply dictionary = .ok extended) :
    extended.Indexed := by
  cases statement with
  | define definition =>
      obtain ⟨hcode, hname, rfl⟩ := define_eq_ok_iff.mp hextended
      have hbyCode := h.byCode.concat (reserveContainer definition) (by simpa using hcode)
      have hbyName := h.byName.concat (reserveContainer definition) (by simpa using hname)
      rw [key_reserveContainer] at hbyCode
      rw [name_reserveContainer] at hbyName
      exact ⟨hbyCode, hbyName⟩
  | label name value text =>
      obtain ⟨-, rfl⟩ := (label_eq_ok_iff h).mp hextended
      exact ⟨h.byCode.map (key_relabel name value text), h.byName.map (name_relabel name value text)⟩
  | nameVendor vendor name =>
      obtain ⟨-, rfl⟩ | ⟨-, rfl⟩ := nameVendor_eq_ok_iff.mp hextended
      · exact h
      · exact ⟨h.byCode, h.byName⟩
  | inclusion target =>
      cases hextended
      exact h

theorem Indexed.perform (statements : List Statement) : (dictionary.perform statements).Indexed :=
  perform_keeps (fun _ _ _ _ hindexed hextended => hindexed.add hextended) h

theorem Indexed.carryOut (statement : Statement) : (dictionary.carryOut statement).Indexed :=
  h.perform [statement]

end

theorem indexed_empty : empty.Indexed := ⟨.empty, .empty⟩

theorem Built.indexed {dictionary : Dictionary} (h : Built dictionary) : dictionary.Indexed :=
  h.of_add indexed_empty fun _ _ _ hindexed hextended => hindexed.add hextended

/-! ## Lookups -/

section

variable {dictionary extended : Dictionary} (h : dictionary.Indexed)
include h

theorem byCode?_eq_some_iff {vendor : Option UInt32} {code : UInt8}
    {definition : AttributeDefinition} :
    dictionary.byCode? vendor code = some definition ↔
      definition ∈ dictionary.definitions ∧ definition.vendor = vendor ∧ definition.code = code := by
  rw [byCode?, h.byCode.lookup_eq_some_iff, AttributeDefinition.key, Prod.mk.injEq]

theorem byName?_eq_some_iff {name : String} {definition : AttributeDefinition} :
    dictionary.byName? name = some definition ↔
      definition ∈ dictionary.definitions ∧ definition.name = name := by
  rw [byName?, h.byName.lookup_eq_some_iff]

/-- What is found by its code is found by its name. -/
theorem byName?_of_byCode? {vendor : Option UInt32} {code : UInt8}
    {definition : AttributeDefinition} (hfound : dictionary.byCode? vendor code = some definition) :
    dictionary.byName? definition.name = some definition :=
  (byName?_eq_some_iff h).mpr ⟨((byCode?_eq_some_iff h).mp hfound).1, rfl⟩

theorem define_eq_ok_iff_of_free {definition : AttributeDefinition} :
    (∃ extended, dictionary.define definition = .ok extended) ↔
      dictionary.byCode? definition.vendor definition.code = none ∧
        dictionary.byName? definition.name = none := by
  rw [byCode?, h.byCode.lookup_eq_none_iff, byName?, h.byName.lookup_eq_none_iff]
  simp only [define_eq_ok_iff, exists_and_left, exists_eq, and_true]
  rfl

/-- A new definition is found under its code, and nothing else changes. -/
theorem byCode?_define {definition : AttributeDefinition}
    (hextended : dictionary.define definition = .ok extended) (vendor : Option UInt32)
    (code : UInt8) :
    extended.byCode? vendor code =
      if (vendor, code) = definition.key then some (reserveContainer definition)
      else dictionary.byCode? vendor code := by
  obtain ⟨-, -, rfl⟩ := define_eq_ok_iff.mp hextended
  have hlookup := h.byCode.lookup_concat (reserveContainer definition) (vendor, code)
  rwa [key_reserveContainer] at hlookup

/-- A new definition is found under its name, and nothing else changes. -/
theorem byName?_define {definition : AttributeDefinition}
    (hextended : dictionary.define definition = .ok extended) (name : String) :
    extended.byName? name =
      if name = definition.name then some (reserveContainer definition)
      else dictionary.byName? name := by
  obtain ⟨-, -, rfl⟩ := define_eq_ok_iff.mp hextended
  have hlookup := h.byName.lookup_concat (reserveContainer definition) name
  rwa [name_reserveContainer] at hlookup

/-- A label changes the definition with its name wherever it is found. -/
theorem byCode?_label {name text : String} {value : UInt32}
    (hextended : dictionary.label name value text = .ok extended) (vendor : Option UInt32)
    (code : UInt8) :
    extended.byCode? vendor code = (dictionary.byCode? vendor code).map (relabel name value text) := by
  obtain ⟨-, rfl⟩ := (label_eq_ok_iff h).mp hextended
  simp only [byCode?, List.getElem?_map]
  exact (Option.map_bind).symm

theorem byName?_label {name text : String} {value : UInt32}
    (hextended : dictionary.label name value text = .ok extended) (other : String) :
    extended.byName? other = (dictionary.byName? other).map (relabel name value text) := by
  obtain ⟨-, rfl⟩ := (label_eq_ok_iff h).mp hextended
  simp only [byName?, List.getElem?_map]
  exact (Option.map_bind).symm

/-- A label changes the lookup of the code of its definition only. -/
theorem byCode?_label_of_found {name text : String} {value : UInt32}
    {definition : AttributeDefinition} (hfound : dictionary.byName? name = some definition)
    (hextended : dictionary.label name value text = .ok extended) (vendor : Option UInt32)
    (code : UInt8) :
    extended.byCode? vendor code =
      if (vendor, code) = definition.key then some (definition.setLabel value text)
      else dictionary.byCode? vendor code := by
  obtain ⟨hmem, hname⟩ := (byName?_eq_some_iff h).mp hfound
  rw [byCode?_label h hextended]
  split
  · rename_i hkey
    cases hkey
    rw [(byCode?_eq_some_iff h).mpr ⟨hmem, rfl, rfl⟩, Option.map_some, relabel, if_pos hname]
  · rename_i hkey
    cases hother : dictionary.byCode? vendor code with
    | none => rfl
    | some other =>
        obtain ⟨-, hvendor, hcode⟩ := (byCode?_eq_some_iff h).mp hother
        have hne : other.name ≠ name := by
          intro hsame
          have hfound' := byName?_of_byCode? h hother
          rw [hsame, hfound, Option.some.injEq] at hfound'
          rw [hfound', AttributeDefinition.key, hvendor, hcode] at hkey
          exact hkey rfl
        rw [Option.map_some, relabel_of_name_ne hne]

/-- A label changes the lookup of its own name only. -/
theorem byName?_label_of_found {name text : String} {value : UInt32}
    {definition : AttributeDefinition} (hfound : dictionary.byName? name = some definition)
    (hextended : dictionary.label name value text = .ok extended) (other : String) :
    extended.byName? other =
      if other = name then some (definition.setLabel value text) else dictionary.byName? other := by
  rw [byName?_label h hextended]
  split
  · rename_i hsame
    rw [hsame, hfound, Option.map_some, relabel, if_pos ((byName?_eq_some_iff h).mp hfound).2]
  · rename_i hother
    cases hpresent : dictionary.byName? other with
    | none => rfl
    | some present =>
        have hname := ((byName?_eq_some_iff h).mp hpresent).2
        rw [Option.map_some, relabel_of_name_ne (hname ▸ hother)]

end

theorem byCode?_nameVendor {dictionary extended : Dictionary} {vendor : UInt32} {name : String}
    (hextended : dictionary.nameVendor vendor name = .ok extended) :
    extended.byCode? = dictionary.byCode? ∧ extended.byName? = dictionary.byName? := by
  obtain ⟨-, rfl⟩ | ⟨-, rfl⟩ := nameVendor_eq_ok_iff.mp hextended
  · exact ⟨rfl, rfl⟩
  · exact ⟨rfl, rfl⟩

/-- The vendor has the name, and the names of other vendors do not change. -/
theorem vendorName?_nameVendor {dictionary extended : Dictionary} {vendor : UInt32} {name : String}
    (hextended : dictionary.nameVendor vendor name = .ok extended) (other : UInt32) :
    extended.vendorName? other = if other = vendor then some name else dictionary.vendorName? other := by
  obtain ⟨hknown, rfl⟩ | ⟨-, rfl⟩ := nameVendor_eq_ok_iff.mp hextended
  · split
    · rename_i hsame
      rw [hsame]
      exact hknown
    · rfl
  · exact Table.find?_insert _ _ _ _

/-! ## Vendors by name -/

/-- No vendor has two entries. -/
theorem Built.vendors_distinct {dictionary : Dictionary} (h : Built dictionary) :
    dictionary.vendors.Distinct := by
  refine h.of_add (P := fun dictionary => dictionary.vendors.Distinct) Table.distinct_empty
    fun before statement extended hdistinct hextended => ?_
  cases statement with
  | define definition =>
      obtain ⟨-, -, rfl⟩ := define_eq_ok_iff.mp hextended
      exact hdistinct
  | label name value text =>
      simp only [Statement.apply, label] at hextended
      split at hextended
      · cases hextended
      · cases hextended
        exact hdistinct
  | nameVendor vendor name =>
      obtain ⟨-, rfl⟩ | ⟨-, rfl⟩ := nameVendor_eq_ok_iff.mp hextended
      · exact hdistinct
      · exact hdistinct.insert vendor name
  | inclusion target =>
      cases hextended
      exact hdistinct

section

variable {dictionary : Dictionary} (h : dictionary.vendors.Distinct) {name : String}
include h

theorem vendorName?_of_vendorOfName? {walk : Table.Walk (UInt32 × String)} {vendor : UInt32}
    (hfound : dictionary.vendorOfName? name walk = some vendor) :
    dictionary.vendorName? vendor = some name :=
  h.find?_of_keyOf? hfound

theorem vendorOfName?_eq_none_iff {walk : Table.Walk (UInt32 × String)} :
    dictionary.vendorOfName? name walk = none ↔
      ∀ vendor, dictionary.vendorName? vendor ≠ some name :=
  h.keyOf?_eq_none_iff

/-- A vendor is met first on some walk exactly if it has the name. -/
theorem exists_vendorOfName?_iff {vendor : UInt32} :
    (∃ walk, dictionary.vendorOfName? name walk = some vendor) ↔
      dictionary.vendorName? vendor = some name := by
  constructor
  · rintro ⟨walk, hfound⟩
    exact vendorName?_of_vendorOfName? h hfound
  · exact Table.exists_keyOf?_eq_some

/-- A name that belongs to one vendor at most is found alike on every walk. -/
theorem vendorOfName?_eq_of_unique {other : Dictionary} (hother : other.vendors.Distinct)
    (hsame : ∀ vendor, other.vendorName? vendor = some name ↔
      dictionary.vendorName? vendor = some name)
    (hunique : ∀ vendor vendor', dictionary.vendorName? vendor = some name →
      dictionary.vendorName? vendor' = some name → vendor = vendor')
    (walk walk' : Table.Walk (UInt32 × String)) :
    other.vendorOfName? name walk = dictionary.vendorOfName? name walk' := by
  cases hfound : dictionary.vendorOfName? name walk' with
  | none =>
      rw [vendorOfName?_eq_none_iff h] at hfound
      rw [vendorOfName?_eq_none_iff hother]
      exact fun vendor hvendor => hfound vendor ((hsame vendor).mp hvendor)
  | some vendor =>
      have hvendor := vendorName?_of_vendorOfName? h hfound
      cases hmet : other.vendorOfName? name walk with
      | none =>
          rw [vendorOfName?_eq_none_iff hother] at hmet
          exact absurd ((hsame vendor).mpr hvendor) (hmet vendor)
      | some vendor' =>
          have hvendor' := (hsame vendor').mp (vendorName?_of_vendorOfName? hother hmet)
          rw [hunique vendor' vendor hvendor' hvendor]

end

/-- Naming a vendor gives another name to nobody and takes it from nobody. -/
theorem vendorName?_nameVendor_iff {dictionary extended : Dictionary} {vendor : UInt32}
    {name other : String} (hextended : dictionary.nameVendor vendor name = .ok extended)
    (hother : other ≠ name) (vendor' : UInt32) :
    extended.vendorName? vendor' = some other ↔ dictionary.vendorName? vendor' = some other := by
  rw [vendorName?_nameVendor hextended]
  split
  · rename_i hsame
    subst hsame
    rcases nameVendor_eq_ok_iff.mp hextended with ⟨hknown, -⟩ | ⟨hnew, -⟩
    · rw [vendorName?, hknown]
    · rw [vendorName?, hnew]
      simp [Ne.symm hother]
  · exact Iff.rfl

end Dictionary
end Radius
