-- SUMMARY: Statements carried out again: they add no type and no vendor any more, they write the same labels in the same order, and so the third time nothing changes.
import Mathlib.Data.List.Induction
import Radius.Proofs.Dictionary.Index

/-!
# Statements carried out again

Once statements have been carried out, no definition among them is for a free code and a free name,
and no vendor lacks its name. What they still do is to write their labels, one after the other, and
every time the last label of a value counts. So from the second time on they leave the same, and the
first time already if each label was for a type that there was.
-/

namespace Radius

/-! ## Labels written again -/

namespace Labels

/-- The last label of a value counts. -/
theorem insert_insert_self (labels : Labels) (value : UInt32) (text text' : String) :
    (labels.insert value text).insert value text' = labels.insert value text' := by
  induction labels with
  | nil => simp [insert]
  | cons entry later ih =>
      by_cases hlt : value < entry.1
      · simp [insert, hlt]
      · by_cases hsame : value = entry.1
        · simp [insert, hsame]
        · simp [insert, hlt, hsame, ih]

/-- Labels of different values can be written in any order. -/
theorem insert_comm (labels : Labels) {value value' : UInt32} (h : value ≠ value')
    (text text' : String) :
    (labels.insert value text).insert value' text' =
      (labels.insert value' text').insert value text := by
  induction labels with
  | nil => grind [insert]
  | cons entry later ih => grind [insert]

end Labels

namespace AttributeDefinition

variable (definition : AttributeDefinition)

@[simp] theorem name_setLabel (value : UInt32) (text : String) :
    (definition.setLabel value text).name = definition.name := rfl

theorem setLabel_setLabel_self (value : UInt32) (text text' : String) :
    (definition.setLabel value text).setLabel value text' = definition.setLabel value text' := by
  simp only [setLabel, Labels.insert_insert_self]

theorem setLabel_comm {value value' : UInt32} (h : value ≠ value') (text text' : String) :
    (definition.setLabel value text).setLabel value' text' =
      (definition.setLabel value' text').setLabel value text := by
  simp only [setLabel, Labels.insert_comm definition.labels h]

end AttributeDefinition

namespace Dictionary

theorem relabel_of_name {name text : String} {value : UInt32} {definition : AttributeDefinition}
    (hname : definition.name = name) :
    relabel name value text definition = definition.setLabel value text :=
  if_pos hname

theorem relabel_relabel_self (name : String) (value : UInt32) (text text' : String)
    (definition : AttributeDefinition) :
    relabel name value text' (relabel name value text definition) =
      relabel name value text' definition := by
  by_cases hname : definition.name = name
  · rw [relabel_of_name hname, relabel_of_name hname, relabel_of_name (by simpa using hname),
      AttributeDefinition.setLabel_setLabel_self]
  · rw [relabel_of_name_ne hname]

theorem relabel_comm {name name' : String} {value value' : UInt32}
    (h : ¬ (name = name' ∧ value = value')) (text text' : String)
    (definition : AttributeDefinition) :
    relabel name' value' text' (relabel name value text definition) =
      relabel name value text (relabel name' value' text' definition) := by
  by_cases hname : definition.name = name
  · by_cases hname' : definition.name = name'
    · have hvalue : value ≠ value' := fun hvalue => h ⟨hname.symm.trans hname', hvalue⟩
      rw [relabel_of_name hname, relabel_of_name hname', relabel_of_name (by simpa using hname'),
        relabel_of_name (by simpa using hname), AttributeDefinition.setLabel_comm definition hvalue]
    · rw [relabel_of_name_ne hname', relabel_of_name_ne (by simpa using hname')]
  · rw [relabel_of_name_ne hname]
    exact (relabel_of_name_ne (by simpa using hname)).symm

/-- What a statement makes of a definition that there is already. -/
def writeLabel : Statement → AttributeDefinition → AttributeDefinition
  | .label name value text => relabel name value text
  | _                      => id

/-- What statements make of a definition that there is already. -/
def writeLabels (statements : List Statement) (definition : AttributeDefinition) :
    AttributeDefinition :=
  statements.foldl (fun definition statement => writeLabel statement definition) definition

@[simp] theorem writeLabels_cons (statement : Statement) (later : List Statement)
    (definition : AttributeDefinition) :
    writeLabels (statement :: later) definition =
      writeLabels later (writeLabel statement definition) := rfl

@[simp] theorem writeLabels_concat (statements : List Statement) (last : Statement)
    (definition : AttributeDefinition) :
    writeLabels (statements ++ [last]) definition =
      writeLabel last (writeLabels statements definition) := by
  simp [writeLabels]

theorem writeLabel_writeLabel_self (statement : Statement) (definition : AttributeDefinition) :
    writeLabel statement (writeLabel statement definition) = writeLabel statement definition := by
  cases statement with
  | label name value text => exact relabel_relabel_self name value text text definition
  | define | nameVendor | inclusion => rfl

/-- A label takes the place of another one, or they can be written in any order. -/
theorem writeLabel_writeLabel (statement other : Statement) :
    (∀ definition, writeLabel statement (writeLabel other definition) =
      writeLabel statement definition) ∨
    ∀ definition, writeLabel statement (writeLabel other definition) =
      writeLabel other (writeLabel statement definition) := by
  cases statement with
  | label name value text =>
      cases other with
      | label name' value' text' =>
          by_cases hsame : name' = name ∧ value' = value
          · obtain ⟨rfl, rfl⟩ := hsame
            exact .inl (relabel_relabel_self name' value' text' text)
          · exact .inr (relabel_comm hsame text' text)
      | define | nameVendor | inclusion => exact .inl fun _ => rfl
  | define | nameVendor | inclusion => exact .inr fun _ => rfl

/-- What a statement writes in the end makes no difference to it before. -/
theorem writeLabel_writeLabels (statements : List Statement) (last : Statement)
    (definition : AttributeDefinition) :
    writeLabel last (writeLabels statements (writeLabel last definition)) =
      writeLabel last (writeLabels statements definition) := by
  -- The first label passes through the ones behind it, unless one of them takes its place.
  induction statements using List.reverseRecOn with
  | nil => exact writeLabel_writeLabel_self last definition
  | append_singleton front statement ih =>
      rw [writeLabels_concat, writeLabels_concat]
      rcases writeLabel_writeLabel last statement with hover | hcomm
      · rw [hover, hover, ih]
      · rw [hcomm, hcomm, ih]

/-- Labels that are written again, in the same order, are there already. -/
theorem writeLabels_writeLabels (statements : List Statement) (definition : AttributeDefinition) :
    writeLabels statements (writeLabels statements definition) =
      writeLabels statements definition := by
  induction statements using List.reverseRecOn with
  | nil => rfl
  | append_singleton front last ih =>
      rw [writeLabels_concat, writeLabels_concat, writeLabel_writeLabels, ih]

/-! ## Keys that are taken -/

/-- No code, name or vendor of the one dictionary is missing in the other. -/
structure KeepsKeys (before after : Dictionary) : Prop where
  byCode : ∀ key, before.byCode.contains key → after.byCode.contains key
  byName : ∀ name, before.byName.contains name → after.byName.contains name
  vendors : ∀ vendor, before.vendors.contains vendor → after.vendors.contains vendor

theorem KeepsKeys.refl (dictionary : Dictionary) : dictionary.KeepsKeys dictionary :=
  ⟨fun _ h => h, fun _ h => h, fun _ h => h⟩

theorem KeepsKeys.trans {before between after : Dictionary} (h : before.KeepsKeys between)
    (h' : between.KeepsKeys after) : before.KeepsKeys after :=
  ⟨fun key hkey => h'.byCode key (h.byCode key hkey),
    fun name hname => h'.byName name (h.byName name hname),
    fun vendor hvendor => h'.vendors vendor (h.vendors vendor hvendor)⟩

theorem KeepsKeys.of_apply {dictionary extended : Dictionary} {statement : Statement}
    (h : statement.apply dictionary = .ok extended) : dictionary.KeepsKeys extended := by
  cases statement with
  | define definition =>
      obtain ⟨-, -, rfl⟩ := define_eq_ok_iff.mp h
      exact ⟨fun _ => Table.contains_insert, fun _ => Table.contains_insert, fun _ h => h⟩
  | label name value text =>
      simp only [Statement.apply, label] at h
      split at h
      · cases h
      · cases h
        exact ⟨fun _ h => h, fun _ h => h, fun _ h => h⟩
  | nameVendor vendor name =>
      obtain ⟨-, rfl⟩ | ⟨-, rfl⟩ := nameVendor_eq_ok_iff.mp h
      · exact .refl _
      · exact ⟨fun _ h => h, fun _ h => h, fun _ => Table.contains_insert⟩
  | inclusion target =>
      cases h
      exact .refl _

theorem keepsKeys_perform (dictionary : Dictionary) (statements : List Statement) :
    dictionary.KeepsKeys (dictionary.perform statements) :=
  perform_keeps (fun _ _ _ _ h hextended => h.trans (.of_apply hextended)) (.refl dictionary)

/-- The key that a statement is about is there already; a label and an include are about none. -/
def Taken (dictionary : Dictionary) : Statement → Prop
  | .define definition   =>
      dictionary.byCode.contains definition.key ∨ dictionary.byName.contains definition.name
  | .nameVendor vendor _ => dictionary.vendors.contains vendor
  | .label ..            => True
  | .inclusion _         => True

theorem Taken.of_keepsKeys {before after : Dictionary} (h : before.KeepsKeys after)
    {statement : Statement} (htaken : before.Taken statement) : after.Taken statement := by
  cases statement with
  | define definition => exact htaken.imp (h.byCode _) (h.byName _)
  | nameVendor vendor name => exact h.vendors vendor htaken
  | label | inclusion => trivial

/-- A statement takes its key, unless it is refused for one that is taken. -/
theorem taken_carryOut (dictionary : Dictionary) (statement : Statement) :
    (dictionary.carryOut statement).Taken statement := by
  cases hextended : statement.apply dictionary with
  | ok extended =>
      rw [carryOut_of_ok hextended]
      cases statement with
      | define definition =>
          obtain ⟨-, -, rfl⟩ := define_eq_ok_iff.mp hextended
          exact .inl (by simp [Table.contains])
      | nameVendor vendor name =>
          obtain ⟨hvendor, rfl⟩ | ⟨-, rfl⟩ := nameVendor_eq_ok_iff.mp hextended
          · simp [Taken, Table.contains, hvendor]
          · simp [Taken, Table.contains]
      | label | inclusion => trivial
  | error fault =>
      rw [carryOut_of_error hextended]
      cases statement with
      | define definition =>
          simp only [Statement.apply, define] at hextended
          split at hextended
          · rename_i hcode
            exact .inl hcode
          split at hextended
          · rename_i hname
            exact .inr hname
          · cases hextended
      | nameVendor vendor name =>
          simp only [Statement.apply, nameVendor] at hextended
          split at hextended
          · rename_i known hknown
            simp [Taken, Table.contains, hknown]
          · cases hextended
      | label | inclusion => trivial

theorem taken_perform (dictionary : Dictionary) {statements : List Statement}
    {statement : Statement} (h : statement ∈ statements) :
    (dictionary.perform statements).Taken statement := by
  obtain ⟨front, back, rfl⟩ := List.append_of_mem h
  rw [perform_append, perform_cons]
  exact (taken_carryOut _ statement).of_keepsKeys (keepsKeys_perform _ back)

/-- The dictionary with all definitions changed. -/
def mapDefinitions (change : AttributeDefinition → AttributeDefinition) (dictionary : Dictionary) :
    Dictionary :=
  { dictionary with definitions := dictionary.definitions.map change }

theorem mapDefinitions_eq_self {change : AttributeDefinition → AttributeDefinition}
    {dictionary : Dictionary}
    (h : ∀ definition ∈ dictionary.definitions, change definition = definition) :
    dictionary.mapDefinitions change = dictionary := by
  have hmap : dictionary.definitions.map change = dictionary.definitions := by
    rw [List.map_congr_left h, List.map_id']
  rw [mapDefinitions, hmap]

/-- A statement whose key is taken does nothing but write its label. -/
theorem carryOut_of_taken {dictionary : Dictionary} (h : dictionary.Indexed)
    {statement : Statement} (htaken : dictionary.Taken statement) :
    dictionary.carryOut statement = dictionary.mapDefinitions (writeLabel statement) := by
  cases hextended : statement.apply dictionary with
  | ok extended =>
      rw [carryOut_of_ok hextended]
      cases statement with
      | define definition =>
          obtain ⟨hcode, hname, -⟩ := define_eq_ok_iff.mp hextended
          simp [Taken, Table.contains, hcode, hname] at htaken
      | label name value text => exact ((label_eq_ok_iff h).mp hextended).2
      | nameVendor vendor name =>
          obtain ⟨-, rfl⟩ | ⟨hvendor, -⟩ := nameVendor_eq_ok_iff.mp hextended
          · exact (mapDefinitions_eq_self fun _ _ => rfl).symm
          · simp [Taken, Table.contains, hvendor] at htaken
      | inclusion target =>
          cases hextended
          exact (mapDefinitions_eq_self fun _ _ => rfl).symm
  | error fault =>
      rw [carryOut_of_error hextended, mapDefinitions_eq_self]
      intro definition hmem
      cases statement with
      | label name value text =>
          -- A label that is refused is for a name that no definition has.
          refine relabel_of_name_ne fun hname => ?_
          have hfound := (byName?_eq_some_iff h).mpr ⟨hmem, hname⟩
          have hok : dictionary.label name value text = .ok _ :=
            (label_eq_ok_iff h).mpr ⟨Option.ne_none_iff_exists'.mpr ⟨_, hfound⟩, rfl⟩
          rw [Statement.apply, hok] at hextended
          cases hextended
      | define | nameVendor | inclusion => rfl

@[simp] theorem mapDefinitions_mapDefinitions
    (change change' : AttributeDefinition → AttributeDefinition) (dictionary : Dictionary) :
    (dictionary.mapDefinitions change).mapDefinitions change' =
      dictionary.mapDefinitions (change' ∘ change) := by
  simp [mapDefinitions]

/-- Statements whose keys are taken do nothing but write their labels. -/
theorem perform_of_taken {dictionary : Dictionary} (h : dictionary.Indexed)
    {statements : List Statement} (htaken : ∀ statement ∈ statements, dictionary.Taken statement) :
    dictionary.perform statements = dictionary.mapDefinitions (writeLabels statements) := by
  induction statements generalizing dictionary with
  | nil => exact (mapDefinitions_eq_self fun _ _ => rfl).symm
  | cons statement later ih =>
      obtain ⟨hstatement, hlater⟩ := List.forall_mem_cons.mp htaken
      have hkeeps : dictionary.KeepsKeys (dictionary.carryOut statement) :=
        keepsKeys_perform dictionary [statement]
      rw [perform_cons, ih (h.carryOut statement) fun other hother =>
          (hlater other hother).of_keepsKeys hkeeps,
        carryOut_of_taken h hstatement, mapDefinitions_mapDefinitions]
      rfl

/-- Carried out again, statements do nothing but write their labels again. -/
theorem Indexed.perform_again {dictionary : Dictionary} (h : dictionary.Indexed)
    (statements : List Statement) :
    (dictionary.perform statements).perform statements =
      (dictionary.perform statements).mapDefinitions (writeLabels statements) :=
  perform_of_taken (h.perform statements) fun _ hmem => taken_perform dictionary hmem

/-- From the second time on, statements change nothing. -/
theorem Indexed.perform_settles {dictionary : Dictionary} (h : dictionary.Indexed)
    (statements : List Statement) :
    ((dictionary.perform statements).perform statements).perform statements =
      (dictionary.perform statements).perform statements := by
  have hagain : writeLabels statements ∘ writeLabels statements = writeLabels statements :=
    funext (writeLabels_writeLabels statements)
  rw [(h.perform statements).perform_again, h.perform_again, mapDefinitions_mapDefinitions, hagain]

/-! ## Labels for types that there are -/

/-- The faults of the statements that fail. -/
def faults : Dictionary → List Statement → List DictionaryError
  | _,          []                 => []
  | dictionary, statement :: later =>
      match statement.apply dictionary with
      | .ok extended => faults extended later
      | .error fault => fault :: faults dictionary later

theorem faults_cons (dictionary : Dictionary) (statement : Statement) (later : List Statement) :
    dictionary.faults (statement :: later) =
      dictionary.faults [statement] ++ (dictionary.carryOut statement).faults later := by
  simp only [faults]
  cases hextended : statement.apply dictionary with
  | ok extended =>
      rw [carryOut_of_ok hextended]
      rfl
  | error fault =>
      rw [carryOut_of_error hextended]
      rfl

theorem faults_append (dictionary : Dictionary) (front back : List Statement) :
    dictionary.faults (front ++ back) =
      dictionary.faults front ++ (dictionary.perform front).faults back := by
  induction front generalizing dictionary with
  | nil => rfl
  | cons statement later ih =>
      rw [List.cons_append, faults_cons, ih, faults_cons dictionary statement later, perform_cons,
        List.append_assoc]

/-- No statement is a label for a name that no type has at its turn. -/
def KnowsAll (dictionary : Dictionary) (statements : List Statement) : Prop :=
  ∀ name, .unknownAttribute name ∉ dictionary.faults statements

theorem knowsAll_append {dictionary : Dictionary} {front back : List Statement} :
    dictionary.KnowsAll (front ++ back) ↔
      dictionary.KnowsAll front ∧ (dictionary.perform front).KnowsAll back := by
  simp only [KnowsAll, faults_append, List.mem_append, not_or, forall_and]

theorem known_of_knowsAll {dictionary : Dictionary} {name text : String} {value : UInt32}
    (h : dictionary.KnowsAll [.label name value text]) : dictionary.byName.contains name := by
  rw [KnowsAll] at h
  simp only [faults, Statement.apply, label] at h
  rw [Table.contains]
  cases hindex : dictionary.byName.find? name with
  | none =>
      rw [hindex] at h
      exact absurd List.mem_cons_self (h name)
  | some index => rfl

/-- A name for which there is a label is known at the end. -/
theorem KnowsAll.known {dictionary : Dictionary} {statements : List Statement}
    (h : dictionary.KnowsAll statements) {name text : String} {value : UInt32}
    (hmem : .label name value text ∈ statements) :
    (dictionary.perform statements).byName.contains name := by
  obtain ⟨front, back, rfl⟩ := List.append_of_mem hmem
  rw [← List.singleton_append] at h
  have hlabel := (knowsAll_append.mp (knowsAll_append.mp h).2).1
  rw [perform_append]
  exact (keepsKeys_perform _ _).byName name (known_of_knowsAll hlabel)

/-- Statements leave a definition alone for whose name there is no label. -/
theorem writeLabels_of_unnamed {statements : List Statement} {definition : AttributeDefinition}
    (h : ∀ value text, .label definition.name value text ∉ statements) :
    writeLabels statements definition = definition := by
  induction statements with
  | nil => rfl
  | cons statement later ih =>
      have hstatement : writeLabel statement definition = definition := by
        cases statement with
        | label name value text =>
            refine relabel_of_name_ne fun hname => h value text ?_
            rw [hname]
            exact List.mem_cons_self
        | define | nameVendor | inclusion => rfl
      rw [writeLabels_cons, hstatement]
      exact ih fun value text hmem => h value text (List.mem_cons_of_mem _ hmem)

/-- A statement whose key is free writes no label, and adds none but a type with a new name. -/
theorem definitions_carryOut_of_free {dictionary : Dictionary} {statement : Statement}
    (h : ¬ dictionary.Taken statement) :
    writeLabel statement = id ∧ ∃ added,
      (dictionary.carryOut statement).definitions = dictionary.definitions ++ added ∧
      ∀ definition ∈ added, ¬ dictionary.byName.contains definition.name := by
  cases statement with
  | define definition =>
      obtain ⟨hcode, hname⟩ := not_or.mp h
      have hextended : Statement.apply dictionary (.define definition) = .ok _ :=
        define_eq_ok_iff.mpr ⟨by simpa [Table.contains] using hcode,
          by simpa [Table.contains] using hname, rfl⟩
      rw [carryOut_of_ok hextended]
      refine ⟨rfl, [reserveContainer definition], rfl, fun added hadded => ?_⟩
      rwa [List.mem_singleton.mp hadded, name_reserveContainer]
  | nameVendor vendor name =>
      have hextended : Statement.apply dictionary (.nameVendor vendor name) = .ok _ :=
        nameVendor_eq_ok_iff.mpr (.inr ⟨by simpa [Taken, Table.contains] using h, rfl⟩)
      rw [carryOut_of_ok hextended]
      exact ⟨rfl, [], (List.append_nil _).symm, List.forall_mem_nil _⟩
  | label | inclusion => exact absurd trivial h

/-- If every label was for a type that there was, all labels have been written. -/
theorem KnowsAll.writeLabels_eq {dictionary : Dictionary} (h : dictionary.Indexed)
    {statements : List Statement} (hknown : dictionary.KnowsAll statements) :
    ∀ definition ∈ (dictionary.perform statements).definitions,
      writeLabels statements definition = definition := by
  -- From the last statement: what stands before it has been written on the definitions it meets.
  induction statements using List.reverseRecOn with
  | nil => exact fun _ _ => rfl
  | append_singleton front last ih =>
      have hfront := (knowsAll_append.mp hknown).1
      intro definition hmem
      rw [perform_append, perform_cons, perform_nil] at hmem
      rw [writeLabels_concat]
      by_cases htaken : (dictionary.perform front).Taken last
      · rw [carryOut_of_taken (h.perform front) htaken] at hmem
        obtain ⟨before, hbefore, rfl⟩ := List.mem_map.mp hmem
        rw [writeLabel_writeLabels, ih hfront before hbefore]
      · obtain ⟨hwrites, added, hadds, hnew⟩ := definitions_carryOut_of_free htaken
        rw [hwrites, id]
        rw [hadds] at hmem
        rcases List.mem_append.mp hmem with hold | hadded
        · exact ih hfront definition hold
        · -- The name was free, so no label was for it.
          exact writeLabels_of_unnamed fun _ _ hlabel =>
            hnew definition hadded (hfront.known hlabel)

/-- Statements change nothing the second time if each label was for a type that there was. -/
theorem KnowsAll.perform_again {dictionary : Dictionary} (h : dictionary.Indexed)
    {statements : List Statement} (hknown : dictionary.KnowsAll statements) :
    (dictionary.perform statements).perform statements = dictionary.perform statements := by
  rw [h.perform_again, mapDefinitions_eq_self (hknown.writeLabels_eq h)]

end Dictionary
end Radius
