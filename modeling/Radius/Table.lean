-- SUMMARY: Finite tables as association lists, one entry per key, in order of first insertion.

/-!
# Tables

A finite map kept as a list of entries. `insert` overwrites an entry in place or
appends a new one, so no key occurs twice, and what `find?` gives afterwards is
the one thing to know about each operation.

The order of the entries belongs to the list and not to the map. What goes through the
entries of a map takes a walk along, and may meet them in any order.
-/

namespace Radius

/-- A finite map from keys to values. -/
structure Table (κ α : Type) where
  entries : List (κ × α)
deriving Repr, DecidableEq

namespace Table

variable {κ α : Type} [DecidableEq κ]

def empty : Table κ α := ⟨[]⟩

instance : EmptyCollection (Table κ α) := ⟨empty⟩
instance : Inhabited (Table κ α) := ⟨empty⟩

/-- The value of the first entry with this key. -/
def find? (table : Table κ α) (key : κ) : Option α :=
  (table.entries.find? (fun entry => entry.1 = key)).map (·.2)

def contains (table : Table κ α) (key : κ) : Bool := (table.find? key).isSome

private def put (key : κ) (value : α) : List (κ × α) → List (κ × α)
  | []            => [(key, value)]
  | entry :: rest => if entry.1 = key then (key, value) :: rest else entry :: put key value rest

/-- Give a key a value, in the place of the one it had. -/
def insert (table : Table κ α) (key : κ) (value : α) : Table κ α := ⟨put key value table.entries⟩

def erase (table : Table κ α) (key : κ) : Table κ α :=
  ⟨table.entries.filter (fun entry => ¬ entry.1 = key)⟩

/-- Change the value of a key, if it has one. -/
def modify (table : Table κ α) (key : κ) (change : α → α) : Table κ α :=
  ⟨table.entries.map (fun entry => if entry.1 = key then (entry.1, change entry.2) else entry)⟩

def size (table : Table κ α) : Nat := table.entries.length

/-- An order in which entries are met, each of them once. -/
structure Walk (ε : Type) where
  visit : List ε → List ε
  visit_perm : ∀ entries, (visit entries).Perm entries

/-- The walk from the first entry to the last. -/
def Walk.ahead (ε : Type) : Walk ε := ⟨id, fun _ => .refl _⟩

/-- A key with this value, the first one that a walk meets. -/
def keyOf? [DecidableEq α] (table : Table κ α) (walk : Walk (κ × α)) (value : α) : Option κ :=
  ((walk.visit table.entries).find? (fun entry => entry.2 = value)).map (·.1)

/-- The table that inserts the entries one after the other. -/
def ofList (entries : List (κ × α)) : Table κ α :=
  entries.foldl (fun table entry => table.insert entry.1 entry.2) empty

@[simp] theorem find?_empty (key : κ) : (empty : Table κ α).find? key = none := rfl

@[simp] theorem find?_insert_self (table : Table κ α) (key : κ) (value : α) :
    (table.insert key value).find? key = some value := by
  obtain ⟨entries⟩ := table
  induction entries with
  | nil => simp [insert, put, find?]
  | cons entry rest ih =>
      simp only [insert, put, find?] at ih ⊢
      split <;> simp_all

theorem find?_insert_of_ne (table : Table κ α) {key other : κ} (value : α) (h : other ≠ key) :
    (table.insert key value).find? other = table.find? other := by
  obtain ⟨entries⟩ := table
  induction entries with
  | nil => simp [insert, put, find?, h.symm]
  | cons entry rest ih =>
      simp only [insert, put, find?] at ih ⊢
      by_cases hk : entry.1 = key
      · simp [hk, h.symm]
      · simp only [hk, if_false, List.find?_cons]
        split <;> simp_all

theorem find?_insert (table : Table κ α) (key other : κ) (value : α) :
    (table.insert key value).find? other = if other = key then some value else table.find? other := by
  split
  · next h => rw [h, find?_insert_self]
  · next h => exact find?_insert_of_ne table value h

/-- A table in which one value has been replaced by a related one. -/
theorem rel_find?_insert {r : α → α → Prop} (hrefl : ∀ value, r value value)
    {table : Table κ α} {key : κ} {value changed : α} (hfound : table.find? key = some value)
    (hchanged : r value changed) (other : κ) :
    Option.Rel r (table.find? other) ((table.insert key changed).find? other) := by
  rw [find?_insert]
  split
  · next hother =>
      rw [hother, hfound]
      exact .some hchanged
  · cases table.find? other with
    | none => exact .none
    | some present => exact .some (hrefl present)

theorem contains_insert {table : Table κ α} {key other : κ} {value : α}
    (h : table.contains other) : (table.insert key value).contains other := by
  rw [contains, find?_insert]
  split
  · rfl
  · exact h

/-- A key that is given the value it has. -/
theorem insert_of_find? {table : Table κ α} {key : κ} {value : α}
    (h : table.find? key = some value) : table.insert key value = table := by
  obtain ⟨entries⟩ := table
  simp only [insert, mk.injEq]
  induction entries with
  | nil => cases h
  | cons entry rest ih =>
      simp only [find?, List.find?_cons] at ih h
      unfold put
      by_cases hkey : entry.1 = key
      · simp only [hkey, decide_true, Option.map_some, Option.some.injEq] at h
        rw [if_pos hkey, ← hkey, ← h]
      · simp only [hkey, decide_false] at h
        rw [if_neg hkey, ih h]

@[simp] theorem find?_erase_self (table : Table κ α) (key : κ) : (table.erase key).find? key = none := by
  simp [erase, find?]

theorem find?_erase_of_ne (table : Table κ α) {key other : κ} (h : other ≠ key) :
    (table.erase key).find? other = table.find? other := by
  obtain ⟨entries⟩ := table
  induction entries with
  | nil => rfl
  | cons entry rest ih =>
      simp only [erase, find?] at ih ⊢
      by_cases hk : entry.1 = key
      · have hne : ¬ entry.1 = other := fun ho => h (ho.symm.trans hk)
        simpa [hk, h.symm, hne] using ih
      · by_cases ho : entry.1 = other <;> simp_all

theorem find?_modify (table : Table κ α) (key other : κ) (change : α → α) :
    (table.modify key change).find? other =
      if other = key then (table.find? key).map change else table.find? other := by
  obtain ⟨entries⟩ := table
  induction entries with
  | nil => simp [modify, find?]
  | cons entry rest ih =>
      simp only [modify, find?, List.map_cons, List.find?_cons] at ih ⊢
      by_cases hk : entry.1 = key
      · by_cases ho : other = key
        · simp [hk, ho]
        · have hne : key ≠ other := fun h => ho h.symm
          simpa [hk, ho, hne] using ih
      · by_cases ho : entry.1 = other
        · have hne : ¬ other = key := fun h => hk (ho.trans h)
          simp [ho, hne]
        · simpa [hk, ho] using ih

/-- A table in which nothing is found has no entries. -/
theorem eq_empty_of_find? {table : Table κ α} (h : ∀ key, table.find? key = none) :
    table = empty := by
  obtain ⟨entries⟩ := table
  cases entries with
  | nil => rfl
  | cons entry rest => simpa [find?] using h entry.1

/-! ## Keys that occur once -/

/-- No key has two entries. -/
def Distinct (table : Table κ α) : Prop := (table.entries.map (·.1)).Nodup

omit [DecidableEq κ] in
theorem distinct_empty : (empty : Table κ α).Distinct := List.nodup_nil

private theorem mem_keys_put {key other : κ} {value : α} {entries : List (κ × α)}
    (h : other ∈ (put key value entries).map (·.1)) : other = key ∨ other ∈ entries.map (·.1) := by
  induction entries with
  | nil => simpa [put] using h
  | cons entry rest ih =>
      simp only [put] at h
      split at h
      · simp_all
      · simp only [List.map_cons, List.mem_cons] at h ⊢
        rcases h with rfl | h
        · exact .inr (.inl rfl)
        · rcases ih h with rfl | hmem
          · exact .inl rfl
          · exact .inr (.inr hmem)

theorem Distinct.insert {table : Table κ α} (h : table.Distinct) (key : κ) (value : α) :
    (table.insert key value).Distinct := by
  obtain ⟨entries⟩ := table
  simp only [Distinct, Table.insert] at h ⊢
  induction entries with
  | nil => simp [put]
  | cons entry rest ih =>
      simp only [List.map_cons, List.nodup_cons] at h
      simp only [put]
      split
      · rename_i hkey
        simpa [← hkey] using h
      · rename_i hkey
        simp only [List.map_cons, List.nodup_cons]
        refine ⟨fun hmem => ?_, ih h.2⟩
        rcases mem_keys_put hmem with hsame | hold
        · exact hkey hsame
        · exact h.1 hold

theorem Distinct.erase {table : Table κ α} (h : table.Distinct) (key : κ) :
    (table.erase key).Distinct :=
  List.Pairwise.sublist (List.filter_sublist.map _) h

theorem Distinct.modify {table : Table κ α} (h : table.Distinct) (key : κ) (change : α → α) :
    (table.modify key change).Distinct := by
  have hkeys : (table.modify key change).entries.map (·.1) = table.entries.map (·.1) := by
    simp only [Table.modify, List.map_map]
    refine List.map_congr_left fun entry _ => ?_
    simp only [Function.comp_apply]
    split <;> rfl
  rw [Distinct, hkeys]
  exact h

/-- Where no key has two entries, an entry is the one that is found. -/
theorem Distinct.find?_of_mem {table : Table κ α} (h : table.Distinct) {key : κ} {value : α}
    (hmem : (key, value) ∈ table.entries) : table.find? key = some value := by
  obtain ⟨entries⟩ := table
  simp only [Distinct, find?] at h hmem ⊢
  induction entries with
  | nil => cases hmem
  | cons entry rest ih =>
      simp only [List.map_cons, List.nodup_cons] at h
      rcases List.mem_cons.mp hmem with rfl | hrest
      · simp
      · have hother : ¬ entry.1 = key := by
          rintro rfl
          exact h.1 (List.mem_map_of_mem (f := (·.1)) hrest)
        simpa [hother] using ih h.2 hrest

/-- The value of a key that is found is the one it was found by. -/
theorem Distinct.find?_of_keyOf? [DecidableEq α] {table : Table κ α} (h : table.Distinct)
    {walk : Walk (κ × α)} {value : α} {key : κ} (hfound : table.keyOf? walk value = some key) :
    table.find? key = some value := by
  obtain ⟨⟨key, value'⟩, hentry, rfl⟩ := Option.map_eq_some_iff.mp hfound
  have hmem := (walk.visit_perm table.entries).mem_iff.mp (List.mem_of_find?_eq_some hentry)
  have hvalue : value' = value := by simpa using List.find?_some hentry
  exact hvalue ▸ h.find?_of_mem hmem

theorem Distinct.keyOf?_eq_none_iff [DecidableEq α] {table : Table κ α} (h : table.Distinct)
    {walk : Walk (κ × α)} {value : α} :
    table.keyOf? walk value = none ↔ ∀ key, table.find? key ≠ some value := by
  constructor
  · intro hnone key hfound
    obtain ⟨⟨key', value'⟩, hentry, rfl⟩ := Option.map_eq_some_iff.mp hfound
    have hmem := (walk.visit_perm table.entries).mem_iff.mpr (List.mem_of_find?_eq_some hentry)
    have hmissed := List.find?_eq_none.mp (Option.map_eq_none_iff.mp hnone) _ hmem
    simp at hmissed
  · intro hnone
    cases hkey : table.keyOf? walk value with
    | none => rfl
    | some key => exact absurd (h.find?_of_keyOf? hkey) (hnone key)

/-- The walk that goes to an entry first, if it is there. -/
def Walk.startingAt [DecidableEq α] (entry : κ × α) : Walk (κ × α) where
  visit entries := if entry ∈ entries then entry :: entries.erase entry else entries
  visit_perm entries := by
    split
    · rename_i hmem
      exact (List.perm_cons_erase hmem).symm
    · exact .refl _

/-- Each key with a value is found by it on some walk. -/
theorem exists_keyOf?_eq_some [DecidableEq α] {table : Table κ α} {key : κ} {value : α}
    (h : table.find? key = some value) : ∃ walk, table.keyOf? walk value = some key := by
  obtain ⟨⟨key', value'⟩, hentry, rfl⟩ := Option.map_eq_some_iff.mp h
  have hkey : key' = key := by simpa using List.find?_some hentry
  subst hkey
  have hvisit : (Walk.startingAt (key', value')).visit table.entries =
      (key', value') :: table.entries.erase (key', value') :=
    if_pos (List.mem_of_find?_eq_some hentry)
  exact ⟨.startingAt (key', value'), by simp [keyOf?, hvisit]⟩

/-- A change that leaves the value of its key alone leaves the table alone. -/
theorem Distinct.modify_eq_self {table : Table κ α} (h : table.Distinct) {key : κ}
    {change : α → α} (hsame : ∀ value, table.find? key = some value → change value = value) :
    table.modify key change = table := by
  have hentries : (table.modify key change).entries = table.entries.map id := by
    refine List.map_congr_left fun entry hentry => ?_
    split
    · rename_i hkey
      have hfound : table.find? key = some entry.2 := h.find?_of_mem (hkey ▸ hentry)
      exact Prod.ext rfl (hsame entry.2 hfound)
    · rfl
  rw [List.map_id] at hentries
  cases table
  exact congrArg Table.mk hentries

end Table
end Radius
