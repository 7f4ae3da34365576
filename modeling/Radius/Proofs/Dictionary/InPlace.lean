-- SUMMARY: Dictionary operations carried out in place, where a fault leaves what was written before it: they come to the same, and one that fails has written nothing.
import Radius.Proofs.Dictionary.Built

/-!
# Operations in place

`Dictionary.define` and its like give a new dictionary or a fault. Here each of them works on one
dictionary, write by write and in the order of its checks, and whatever was written before a fault
stays written: in an include that fails, too, and in a line that loading passes over. All of them
come to the same as before, so an operation that fails leaves the dictionary as it was.
-/

namespace Radius.Dictionary

/-- An operation in place. A fault ends it and keeps what has been written. -/
abbrev Update (α : Type) := ExceptT DictionaryError (StateM Dictionary) α

namespace Update

/-! ## Outcomes -/

section

variable {α β : Type}

/-- What an operation comes to, and the dictionary that it leaves. -/
def outcome (update : Update α) (dictionary : Dictionary) : Except DictionaryError α × Dictionary :=
  (ExceptT.run update).run dictionary

@[simp] theorem outcome_pure (a : α) (dictionary : Dictionary) :
    outcome (pure a) dictionary = (.ok a, dictionary) := rfl

@[simp] theorem outcome_throw (fault : DictionaryError) (dictionary : Dictionary) :
    outcome (throw fault : Update α) dictionary = (.error fault, dictionary) := rfl

@[simp] theorem outcome_get (dictionary : Dictionary) :
    outcome (get : Update Dictionary) dictionary = (.ok dictionary, dictionary) := rfl

@[simp] theorem outcome_modify (change : Dictionary → Dictionary) (dictionary : Dictionary) :
    outcome (modify change : Update PUnit) dictionary = (.ok (), change dictionary) := rfl

theorem outcome_bind (update : Update α) (next : α → Update β) (dictionary : Dictionary) :
    outcome (update >>= next) dictionary =
      match outcome update dictionary with
      | (.ok a, left)        => outcome (next a) left
      | (.error fault, left) => (.error fault, left) := by
  simp only [outcome, ExceptT.run_bind, StateT.run_bind]
  rcases (ExceptT.run update).run dictionary with ⟨fault | a, left⟩
  · rfl
  · rfl

/-- Go on after a fault, with what has been written. -/
def attempt (update : Update Unit) : Update Unit := tryCatch update (fun _ => pure ())

@[simp] theorem outcome_attempt (update : Update Unit) (dictionary : Dictionary) :
    outcome (attempt update) dictionary = (.ok (), (outcome update dictionary).2) := by
  simp only [attempt, outcome, ExceptT.run_tryCatch, StateT.run_bind]
  rcases (ExceptT.run update).run dictionary with ⟨fault | a, left⟩
  · rfl
  · rfl

end

/-! ## The operations, write by write -/

def define (definition : AttributeDefinition) : Update Unit := do
  if (← get).byCode.contains definition.key then
    throw (.duplicateCode definition.vendor definition.code)
  if (← get).byName.contains definition.name then
    throw (.duplicateName definition.name)
  let index := (← get).definitions.length
  modify (fun dictionary =>
    { dictionary with byCode := dictionary.byCode.insert definition.key index })
  modify (fun dictionary =>
    { dictionary with byName := dictionary.byName.insert definition.name index })
  modify (fun dictionary =>
    { dictionary with definitions := dictionary.definitions ++ [reserveContainer definition] })

def label (name : String) (value : UInt32) (text : String) : Update Unit := do
  match (← get).byName.find? name with
  | none       => throw (.unknownAttribute name)
  | some index =>
      modify (fun dictionary =>
        { dictionary with
          definitions := dictionary.definitions.modify index (·.setLabel value text) })

/-- A vendor that has the name already gets it once more. -/
def nameVendor (vendor : UInt32) (name : String) : Update Unit := do
  match (← get).vendors.find? vendor with
  | some known => if known ≠ name then throw (.duplicateVendor vendor)
  | none       => pure ()
  modify (fun dictionary => { dictionary with vendors := dictionary.vendors.insert vendor name })

def apply : Statement → Update Unit
  | .define definition      => define definition
  | .label name value text  => label name value text
  | .nameVendor vendor name => nameVendor vendor name
  | .inclusion _            => pure ()

/-- An include that fails does not end what includes it. -/
def follow (source : Source) (deeper : Option (String → Update Unit)) (resource target : String) :
    Update Unit :=
  match deeper, source.resolve resource target with
  | some read, some found => attempt (read found)
  | _,         _          => pure ()

def step (source : Source) (deeper : Option (String → Update Unit)) (resource : String)
    (line : Line) : Update Unit :=
  match Directive.ofKeyword? line.keyword with
  | none           => pure ()
  | some directive =>
      match Statement.ofTokens directive line.tokens with
      | .error fault            => throw fault
      | .ok (.inclusion target) => follow source deeper resource target
      | .ok statement           => apply statement

/-- A line that fails is passed over. -/
def readResource (source : Source) (deeper : Option (String → Update Unit)) (resource : String) :
    Update Unit :=
  match source.read resource with
  | .error fault => throw (.unreadable resource fault)
  | .ok bytes    =>
      forM (Line.ofText (Utf8.lossyChars bytes)) (fun line =>
        attempt (step source deeper resource line))

def readTo (source : Source) : (depth : Nat) → (resource : String) → Update Unit
  | 0         => readResource source none
  | depth + 1 => readResource source (some (readTo source depth))

def load (source : Source) (resource : String) : Update Unit := readTo source maxIncludeDepth resource

/-! ## They come to the same -/

/-- What is left of a dictionary by an operation that gives a new one or a fault. -/
def settle (dictionary : Dictionary) :
    Except DictionaryError Dictionary → Except DictionaryError Unit × Dictionary
  | .ok extended => (.ok (), extended)
  | .error fault => (.error fault, dictionary)

theorem settle_eq_ok_iff {dictionary left : Dictionary} {result : Except DictionaryError Dictionary} :
    settle dictionary result = (.ok (), left) ↔ result = .ok left := by
  cases result <;> simp [settle]

theorem settle_eq_error_iff {dictionary left : Dictionary}
    {result : Except DictionaryError Dictionary} {fault : DictionaryError} :
    settle dictionary result = (.error fault, left) ↔ result = .error fault ∧ left = dictionary := by
  cases result <;> simp [settle, eq_comm]

theorem outcome_define (definition : AttributeDefinition) (dictionary : Dictionary) :
    outcome (define definition) dictionary = settle dictionary (dictionary.define definition) := by
  unfold define Dictionary.define
  by_cases hcode : dictionary.byCode.contains definition.key
  · simp [outcome_bind, hcode, settle]
  by_cases hname : dictionary.byName.contains definition.name
  · simp [outcome_bind, hcode, hname, settle]
  · simp [outcome_bind, hcode, hname, settle]

theorem outcome_label (name : String) (value : UInt32) (text : String) (dictionary : Dictionary) :
    outcome (label name value text) dictionary =
      settle dictionary (dictionary.label name value text) := by
  unfold label Dictionary.label
  cases hindex : dictionary.byName.find? name with
  | none => simp [outcome_bind, hindex, settle]
  | some index => simp [outcome_bind, hindex, settle]

theorem outcome_nameVendor (vendor : UInt32) (name : String) (dictionary : Dictionary) :
    outcome (nameVendor vendor name) dictionary =
      settle dictionary (dictionary.nameVendor vendor name) := by
  unfold nameVendor Dictionary.nameVendor
  cases hvendor : dictionary.vendors.find? vendor with
  | none => simp [outcome_bind, hvendor, settle]
  | some known =>
      by_cases hknown : known = name
      · rw [hknown] at hvendor
        simp [outcome_bind, hvendor, settle, hknown, Table.insert_of_find? hvendor]
      · simp [outcome_bind, hvendor, settle, hknown]

theorem outcome_apply (statement : Statement) (dictionary : Dictionary) :
    outcome (apply statement) dictionary = settle dictionary (statement.apply dictionary) := by
  cases statement with
  | define definition => exact outcome_define definition dictionary
  | label name value text => exact outcome_label name value text dictionary
  | nameVendor vendor name => exact outcome_nameVendor vendor name dictionary
  | inclusion target => rfl

/-- Reading in place comes to the same as reading into a loading under way. -/
def Mirrors (update : String → Update Unit) (read : Loading.Reader) : Prop :=
  ∀ resource loading, outcome (update resource) loading.dictionary =
    settle loading.dictionary ((read resource loading).map (·.dictionary))

section

variable (source : Source) {updates : Option (String → Update Unit)}
  {deeper : Option Loading.Reader} (hdeeper : Option.Rel Mirrors updates deeper)
include hdeeper

theorem outcome_follow (resource : String) (number : Nat) (target : String) (loading : Loading) :
    (outcome (follow source updates resource target) loading.dictionary).2 =
      (loading.follow source deeper resource number target).dictionary := by
  unfold follow Loading.follow
  cases hdeeper with
  | none => rfl
  | @some update read hread =>
      cases source.resolve resource target with
      | none => rfl
      | some found =>
          simp only [outcome_attempt, hread found loading]
          cases read found loading <;> rfl

/-- A line leaves what it makes of a loading under way, also when it fails. -/
theorem outcome_step (resource : String) (line : Line) (loading : Loading) :
    (outcome (step source updates resource line) loading.dictionary).2 =
      (loading.step source deeper resource line).dictionary := by
  unfold step Loading.step
  cases Directive.ofKeyword? line.keyword with
  | none => rfl
  | some directive =>
      have hremarked := Loading.dictionary_remarkTrailing resource line directive loading
      dsimp only
      cases Statement.ofTokens directive line.tokens with
      | error fault => exact hremarked.symm
      | ok statement =>
          cases statement with
          | inclusion target =>
              have hfollow := outcome_follow source hdeeper resource line.number target
                (Loading.remarkTrailing resource line directive loading)
              rwa [hremarked] at hfollow
          | _ =>
              simp only [outcome_apply, hremarked]
              cases Statement.apply loading.dictionary _ with
              | error fault => exact hremarked.symm
              | ok extended => rfl

theorem outcome_forM_step (resource : String) (lines : List Line) (loading : Loading) :
    outcome (forM lines (fun line => attempt (step source updates resource line)))
      loading.dictionary =
        (.ok (), (lines.foldl (Loading.step source deeper resource) loading).dictionary) := by
  induction lines generalizing loading with
  | nil => rfl
  | cons line later ih =>
      simp only [List.forM_cons, outcome_bind, outcome_attempt, List.foldl_cons]
      rw [outcome_step source hdeeper resource line loading, ih]

theorem mirrors_readResource :
    Mirrors (readResource source updates) (Loading.readResource source deeper) := by
  intro resource loading
  unfold readResource Loading.readResource
  cases source.read resource with
  | error fault => rfl
  | ok bytes => exact outcome_forM_step source hdeeper resource _ loading

end

theorem mirrors_readTo (source : Source) (depth : Nat) :
    Mirrors (readTo source depth) (Loading.readTo source depth) := by
  induction depth with
  | zero => exact mirrors_readResource source .none
  | succ depth ih => exact mirrors_readResource source (.some ih)

theorem outcome_load (source : Source) (resource : String) (dictionary : Dictionary) :
    outcome (load source resource) dictionary =
      settle dictionary ((dictionary.load source resource).map (·.dictionary)) :=
  mirrors_readTo source maxIncludeDepth resource ⟨dictionary, []⟩

end Update

/-! ## Calls -/

/-- What a dictionary can be asked to do. -/
inductive Call where
  | define (definition : AttributeDefinition)
  | label (name : String) (value : UInt32) (text : String)
  | nameVendor (vendor : UInt32) (name : String)
  | load (source : Source) (resource : String)

namespace Call

def isLoad : Call → Bool
  | .load .. => true
  | _        => false

def update : Call → Update Unit
  | .define definition      => Update.define definition
  | .label name value text  => Update.label name value text
  | .nameVendor vendor name => Update.nameVendor vendor name
  | .load source resource   => Update.load source resource

/-- The dictionary that a call makes of another one. -/
def result (dictionary : Dictionary) : Call → Except DictionaryError Dictionary
  | .define definition      => dictionary.define definition
  | .label name value text  => dictionary.label name value text
  | .nameVendor vendor name => dictionary.nameVendor vendor name
  | .load source resource   => (dictionary.load source resource).map (·.dictionary)

/-- A call leaves the dictionary that it makes, and the one it was made on if it fails. -/
theorem outcome_update (call : Call) (dictionary : Dictionary) :
    call.update.outcome dictionary = Update.settle dictionary (call.result dictionary) := by
  cases call with
  | define definition => exact Update.outcome_define definition dictionary
  | label name value text => exact Update.outcome_label name value text dictionary
  | nameVendor vendor name => exact Update.outcome_nameVendor vendor name dictionary
  | load source resource => exact Update.outcome_load source resource dictionary

theorem built_result {call : Call} {dictionary made : Dictionary} (h : Built dictionary)
    (hmade : call.result dictionary = .ok made) : Built made := by
  cases call with
  | define definition =>
      exact h.add (show Statement.apply dictionary (.define definition) = .ok made from hmade)
  | label name value text =>
      exact h.add (show Statement.apply dictionary (.label name value text) = .ok made from hmade)
  | nameVendor vendor name =>
      exact h.add (show Statement.apply dictionary (.nameVendor vendor name) = .ok made from hmade)
  | load source resource =>
      obtain ⟨loading, hloading, rfl⟩ := Except.map_eq_ok_iff.mp hmade
      exact h.load hloading

end Call

/-- What calls leave of the empty dictionary, one after the other, those that fail included. -/
def ofCalls (calls : List Call) : Dictionary :=
  calls.foldl (fun dictionary call => (call.update.outcome dictionary).2) empty

/-- What calls leave has the properties that every successful call keeps. -/
theorem ofCalls_keeps {P : Dictionary → Prop} {calls : List Call} (hempty : P empty)
    (hcall : ∀ call ∈ calls, ∀ dictionary made, P dictionary → call.result dictionary = .ok made →
      P made) : P (ofCalls calls) := by
  refine List.foldlRecOn (motive := P) calls _ hempty ?_
  intro dictionary hdictionary call hmem
  rw [Call.outcome_update]
  cases hmade : call.result dictionary with
  | error fault => exact hdictionary
  | ok made => exact hcall call hmem dictionary made hdictionary hmade

theorem built_ofCalls (calls : List Call) : Built (ofCalls calls) :=
  ofCalls_keeps .empty fun _ _ _ _ hbuilt hmade => Call.built_result hbuilt hmade

end Radius.Dictionary
