-- SUMMARY: Requests of one key are handled as if no other key had ever been requested.
import Radius.Proofs.Dedup.Eviction

/-!
# Separation of keys

All keys share one table and one counter of generations. A run is compared with the run of
the events of one key alone: `eventsOf` leaves out what the others do and names calls and
evictions by their places among those of the key. The two runs differ in generations only,
for the key's claims are numbered from zero when nobody else claims anything. `only` is the
state that the run of the key alone is in, and one step of the run is one step of it or
none. Generations are compared with each other and never looked at otherwise, so it is
enough that the new numbers of different claims are different.
-/

namespace Radius

/-! ## Places among the entries with a property -/

section

variable {α : Type} {p : α → Bool}

/-- The place that the entry at an index has among those with a property, if it has the property. -/
def rank? (p : α → Bool) (list : List α) (index : Nat) : Option Nat :=
  (list[index]?.filter p).map (fun _ => (list.take index).countP p)

theorem exists_append_of_getElem? {list : List α} {index : Nat} {entry : α}
    (h : list[index]? = some entry) :
    ∃ front back, list = front ++ entry :: back ∧ index = front.length := by
  obtain ⟨hindex, rfl⟩ := List.getElem?_eq_some_iff.mp h
  refine ⟨list.take index, list.drop (index + 1), ?_, ?_⟩
  · rw [List.getElem_cons_drop, List.take_append_drop]
  · rw [List.length_take, Nat.min_eq_left (Nat.le_of_lt hindex)]

section

variable {list : List α} {index : Nat} {old : α} (h : list[index]? = some old)
include h

/-- An entry with the property stands in its place among those that have it, and taking it out or
replacing it there is taking it out of the list or replacing it in the list. -/
theorem filter_of_rank (hold : p old) :
    ∃ place, rank? p list index = some place ∧ (list.filter p)[place]? = some old ∧
      (list.eraseIdx index).filter p = (list.filter p).eraseIdx place ∧
      ∀ new, p new → (list.set index new).filter p = (list.filter p).set place new := by
  obtain ⟨front, back, rfl, rfl⟩ := exists_append_of_getElem? h
  refine ⟨(front.filter p).length, ?_, ?_, ?_, ?_⟩
  · simp [rank?, hold, Option.filter, List.countP_eq_length_filter]
  · simp [hold]
  · simp [hold, List.eraseIdx_append_of_length_le]
  · intro new hnew
    simp [hold, hnew]

/-- An entry without the property has no place among those that have it. -/
theorem filter_of_not_rank (hold : ¬ p old) :
    rank? p list index = none ∧ (list.eraseIdx index).filter p = list.filter p ∧
      ∀ new, ¬ p new → (list.set index new).filter p = list.filter p := by
  obtain ⟨front, back, rfl, rfl⟩ := exists_append_of_getElem? h
  refine ⟨?_, ?_, ?_⟩
  · simp [rank?, hold, Option.filter]
  · simp [hold, List.eraseIdx_append_of_length_le]
  · intro new hnew
    simp [hold, hnew]

end

end

/-! ## Actions of a key -/

namespace DedupAction

/-- Whose request the action is about; none if it is about all of them. -/
def key? : DedupAction → Option RequestKey
  | .claimed key _   => some key
  | .suppressed key  => some key
  | .scheduled key _ => some key
  | .entered key _   => some key
  | .settled key _ _ => some key
  | .fired key _     => some key
  | .cleared         => none

/-- Whether the action is about a key, on its own or among all keys. -/
def concerns (key : RequestKey) (action : DedupAction) : Bool := action.key?.all (· = key)

/-- The action with another number for each generation. -/
def renumber (number : UInt64 → UInt64) : DedupAction → DedupAction
  | .claimed key generation         => .claimed key (number generation)
  | .suppressed key                 => .suppressed key
  | .scheduled key generation       => .scheduled key (number generation)
  | .entered key generation         => .entered key (number generation)
  | .settled key generation outcome => .settled key (number generation) outcome
  | .fired key generation           => .fired key (number generation)
  | .cleared                        => .cleared

/-- The generation of a claim of a key. -/
def claimOf? (key : RequestKey) : DedupAction → Option UInt64
  | .claimed key' generation => if key' = key then some generation else none
  | _                        => none

@[simp] theorem concerns_renumber (key : RequestKey) (number : UInt64 → UInt64)
    (action : DedupAction) : (action.renumber number).concerns key = action.concerns key := by
  cases action <;> rfl

theorem claimOf?_of_not_concerns {key : RequestKey} {action : DedupAction}
    (h : action.concerns key = false) : action.claimOf? key = none := by
  cases action with
  | claimed key' generation => simpa [concerns, key?, claimOf?] using h
  | _ => rfl

end DedupAction

/-- The generations that a key was claimed under, in order. -/
def claimsOf (key : RequestKey) (log : List DedupAction) : List UInt64 :=
  log.filterMap (DedupAction.claimOf? key)

/-- A generation as the place of its claim among those of the key. -/
def ordinal (claims : List UInt64) (generation : UInt64) : UInt64 :=
  UInt64.ofNat (claims.idxOf generation)

namespace DedupSystem

/-- The event where only the requests of a key have come; none for an event of another key. -/
def eventOf? (key : RequestKey) (system : DedupSystem) : DedupEvent → Option DedupEvent
  | .arrive key' => if key' = key then some (.arrive key) else none
  | .schedule index => (rank? (·.key = key) system.calls index).map .schedule
  | .enter index => (rank? (·.key = key) system.calls index).map .enter
  | .finish index outcome => (rank? (·.key = key) system.calls index).map (.finish · outcome)
  | .fire index => (rank? (·.key = key) system.dedup.scheduled index).map .fire
  | .clear => some .clear

/-- The events of a run without those of the other keys. -/
def eventsOf (key : RequestKey) (system : DedupSystem) : List DedupEvent → List DedupEvent
  | [] => []
  | event :: later =>
      match system.step event with
      | some next => (system.eventOf? key event).toList ++ next.eventsOf key later
      | none      => []

/-- What the events of a run that are about a key come to, each with the state of the key's entry
afterwards. -/
def observed (key : RequestKey) (system : DedupSystem) :
    List DedupEvent → List (DedupAction × Option EntryState)
  | [] => []
  | event :: later =>
      match system.action? event, system.step event with
      | some action, some next =>
          if action.concerns key then (action, next.dedup.stateOf? key) :: next.observed key later
          else next.observed key later
      | _, _ => []

end DedupSystem

/-! ## Tables with one key -/

namespace Table

variable {κ α : Type} [DecidableEq κ]

/-- The table in which a key has this value, if any, and no other key has one. -/
def single (key : κ) (value : Option α) : Table κ α := ⟨(value.map (key, ·)).toList⟩

@[simp] theorem find?_single (key : κ) (value : Option α) :
    (single key value).find? key = value := by
  cases value <;> simp [single, find?]

theorem insert_single_none (key : κ) (value : α) :
    (single key none).insert key value = single key (some value) := rfl

theorem modify_single (key : κ) (value : Option α) (change : α → α) :
    (single key value).modify key change = single key (value.map change) := by
  cases value <;> simp [single, modify]

theorem erase_single (key : κ) (value : Option α) :
    (single key value).erase key = single key none := by
  cases value <;> simp [single, erase]

end Table

/-! ## The state of a key alone -/

def DedupEntry.renumber (number : UInt64 → UInt64) (entry : DedupEntry) : DedupEntry :=
  { entry with generation := number entry.generation }

def Eviction.renumber (number : UInt64 → UInt64) (eviction : Eviction) : Eviction :=
  { eviction with generation := number eviction.generation }

def DedupCall.renumber (number : UInt64 → UInt64) (call : DedupCall) : DedupCall :=
  { call with generation := number call.generation }

/-- What there is of a key, with another number for each generation and this many claims made. -/
def Deduplicator.only (key : RequestKey) (number : UInt64 → UInt64) (count : Nat)
    (dedup : Deduplicator) : Deduplicator where
  entries := Table.single key ((dedup.entries.find? key).map (·.renumber number))
  generation := UInt64.ofNat count
  scheduled := (dedup.scheduled.filter (·.key = key)).map (·.renumber number)

def DedupSystem.only (key : RequestKey) (number : UInt64 → UInt64) (count : Nat)
    (system : DedupSystem) : DedupSystem where
  dedup := system.dedup.only key number count
  calls := (system.calls.filter (·.key = key)).map (·.renumber number)

namespace Deduplicator

section

variable (key : RequestKey) (number : UInt64 → UInt64) (count : Nat) (dedup : Deduplicator)

theorem find?_only : (dedup.only key number count).entries.find? key =
    (dedup.entries.find? key).map (·.renumber number) :=
  Table.find?_single _ _

@[simp] theorem stateOf?_only :
    (dedup.only key number count).stateOf? key = dedup.stateOf? key := by
  rw [stateOf?, find?_only, Option.map_map]
  rfl

end

section

variable {key : RequestKey} {number : UInt64 → UInt64} {count : Nat} {dedup : Deduplicator}

theorem claim_only_of_cached (hcached : dedup.generationOf? key ≠ none) :
    (dedup.only key number count).claim key = none := by
  rw [claim_eq_none_iff, generationOf?, find?_only, Option.map_map]
  simpa [generationOf?] using hcached

theorem claim_only_of_free (hfree : dedup.generationOf? key = none)
    (hnumber : number dedup.generation = UInt64.ofNat count) :
    (dedup.only key number count).claim key = some (UInt64.ofNat count,
      Deduplicator.only key number (count + 1)
        { dedup with
          entries := dedup.entries.insert key ⟨dedup.generation, .pending⟩
          generation := dedup.generation + 1 }) := by
  have hnone : dedup.entries.find? key = none := by simpa [generationOf?] using hfree
  have hcontains : (dedup.only key number count).entries.contains key = false := by
    rw [Table.contains, find?_only, hnone]
    rfl
  simp only [claim, hcontains, Bool.false_eq_true, if_false]
  simp [only, hnone, Table.insert_single_none, DedupEntry.renumber, hnumber]

theorem schedule_only (generation : UInt64) :
    (dedup.only key number count).schedule key (number generation) =
      (dedup.schedule key generation).only key number count := by
  simp [only, schedule, Eviction.renumber]

theorem settle_only {generation : UInt64} (outcome : Outcome)
    (hnumber : ∀ cached, dedup.generationOf? key = some cached →
      (number cached = number generation ↔ cached = generation)) :
    (dedup.only key number count).settle key (number generation) outcome =
      (dedup.settle key generation outcome).only key number count := by
  rw [only, only, find?_settle, settle, Table.modify_single]
  congr 2
  cases hfound : dedup.entries.find? key with
  | none => rfl
  | some entry =>
      have hsame := hnumber entry.generation (by simp [generationOf?, hfound])
      by_cases hmatch : entry.generation = generation
      · simp [DedupEntry.renumber, hmatch]
      · simp [DedupEntry.renumber, hmatch, mt hsame.mp hmatch]

theorem evict_only {generation : UInt64}
    (hnumber : ∀ cached, dedup.generationOf? key = some cached →
      (number cached = number generation ↔ cached = generation)) :
    (dedup.only key number count).evict ⟨key, number generation⟩ =
      (dedup.evict ⟨key, generation⟩).only key number count := by
  rw [evict_eq, generationOf?, find?_only, only, only, find?_evict, scheduled_evict]
  rw [Table.erase_single]
  congr 1
  cases hfound : dedup.entries.find? key with
  | none => simp [generationOf?, hfound]
  | some entry =>
      have hsame := hnumber entry.generation (by simp [generationOf?, hfound])
      by_cases hmatch : entry.generation = generation
      · simp [generationOf?, hfound, DedupEntry.renumber, hmatch]
      · simp [generationOf?, hfound, DedupEntry.renumber, hmatch, mt hsame.mp hmatch]

end

end Deduplicator

/-! ## Steps -/

namespace DedupSystem

/-- How the system of a key alone follows a step: with a step of its own that comes to the same, or
not at all if the step is about another key. -/
inductive Follows (key : RequestKey) (number : UInt64 → UInt64) (count : Nat)
    (system : DedupSystem) (event : DedupEvent) (action : DedupAction) (next : DedupSystem) : Prop
  | own (hconcerns : action.concerns key = true) (own : DedupEvent)
      (hevent : system.eventOf? key event = some own)
      (haction : (system.only key number count).action? own = some (action.renumber number))
      (hstep : (system.only key number count).step own =
        some (next.only key number (count + (action.claimOf? key).toList.length)))
  | other (hconcerns : action.concerns key = false) (hevent : system.eventOf? key event = none)
      (hsame : next.only key number count = system.only key number count)

section

variable {key : RequestKey} {number : UInt64 → UInt64} {count : Nat} {system next : DedupSystem}

theorem getElem?_calls_only {place : Nat} {call : DedupCall}
    (h : (system.calls.filter (·.key = key))[place]? = some call) :
    (system.only key number count).calls[place]? = some (call.renumber number) := by
  rw [only, List.getElem?_map, h, Option.map_some]

theorem follows_arrive {key' : RequestKey} {action : DedupAction}
    (hstep : system.step (.arrive key') = some next)
    (haction : system.action? (.arrive key') = some action)
    (hnumber : ∀ generation, action = .claimed key generation →
      number generation = UInt64.ofNat count) :
    Follows key number count system (.arrive key') action next := by
  cases hclaim : system.dedup.claim key' with
  | none =>
      simp only [step, hclaim, Option.some.injEq] at hstep
      simp only [action?, hclaim, Option.some.injEq] at haction
      subst hstep haction
      by_cases hkey : key' = key
      · subst hkey
        have hcached := Deduplicator.claim_eq_none_iff.mp hclaim
        have hduplicate : (system.only key' number count).dedup.claim key' = none :=
          Deduplicator.claim_only_of_cached hcached
        refine .own (by simp [DedupAction.concerns, DedupAction.key?]) (.arrive key') ?_ ?_ ?_
        · simp [eventOf?]
        · simp [action?, hduplicate, DedupAction.renumber]
        · simp [step, hduplicate, DedupAction.claimOf?]
      · exact .other (by simp [DedupAction.concerns, DedupAction.key?, hkey])
          (by simp [eventOf?, hkey]) rfl
  | some claim =>
      obtain ⟨generation, dedup⟩ := claim
      simp only [step, hclaim, Option.some.injEq] at hstep
      simp only [action?, hclaim, Option.some.injEq] at haction
      obtain ⟨hfree, rfl, rfl⟩ := Deduplicator.claim_eq_some hclaim
      subst hstep haction
      by_cases hkey : key' = key
      · subst hkey
        have hnext := hnumber _ rfl
        have hclaimed := Deduplicator.claim_only_of_free hfree hnext
        refine .own (by simp [DedupAction.concerns, DedupAction.key?]) (.arrive key') ?_ ?_ ?_
        · simp [eventOf?]
        · simp [action?, only, hclaimed, DedupAction.renumber, hnext]
        · simp [step, only, hclaimed, DedupAction.claimOf?, DedupCall.renumber, hnext]
      · refine .other (by simp [DedupAction.concerns, DedupAction.key?, hkey])
          (by simp [eventOf?, hkey]) ?_
        have hfind := Table.find?_insert_of_ne system.dedup.entries
          (⟨system.dedup.generation, .pending⟩ : DedupEntry) (Ne.symm hkey)
        simp [only, Deduplicator.only, hfind, hkey]

theorem follows_schedule {index : Nat} {action : DedupAction}
    (hstep : system.step (.schedule index) = some next)
    (haction : system.action? (.schedule index) = some action) :
    Follows key number count system (.schedule index) action next := by
  obtain ⟨key', generation, hcall, hscheduled, rfl⟩ := step_schedule hstep
  cases hscheduled.symm.trans haction
  by_cases hkey : key' = key
  · subst hkey
    obtain ⟨place, hplace, hown, -, hset⟩ :=
      filter_of_rank (p := (·.key = key')) hcall (by simp)
    have hcalls : (system.only key' number count).calls[place]? = some _ :=
      getElem?_calls_only hown
    refine .own (by simp [DedupAction.concerns, DedupAction.key?]) (.schedule place) ?_ ?_ ?_
    · simp [eventOf?, hplace]
    · simp [action?, hcalls, DedupCall.renumber, DedupAction.renumber]
    · simp only [step, hcalls, DedupCall.renumber]
      simp [only, Deduplicator.schedule_only, DedupAction.claimOf?, hset, List.map_set,
        DedupCall.renumber]
  · obtain ⟨hplace, -, hset⟩ := filter_of_not_rank (p := (·.key = key)) hcall (by simpa using hkey)
    refine .other (by simp [DedupAction.concerns, DedupAction.key?, hkey])
      (by simp [eventOf?, hplace]) ?_
    simp [only, Deduplicator.only, Deduplicator.schedule, hset, hkey]

theorem follows_enter {index : Nat} {action : DedupAction}
    (hstep : system.step (.enter index) = some next)
    (haction : system.action? (.enter index) = some action) :
    Follows key number count system (.enter index) action next := by
  obtain ⟨key', generation, hcall, hentered, rfl⟩ := step_enter hstep
  cases hentered.symm.trans haction
  by_cases hkey : key' = key
  · subst hkey
    obtain ⟨place, hplace, hown, -, hset⟩ :=
      filter_of_rank (p := (·.key = key')) hcall (by simp)
    have hcalls : (system.only key' number count).calls[place]? = some _ :=
      getElem?_calls_only hown
    refine .own (by simp [DedupAction.concerns, DedupAction.key?]) (.enter place) ?_ ?_ ?_
    · simp [eventOf?, hplace]
    · simp [action?, hcalls, DedupCall.renumber, DedupAction.renumber]
    · simp only [step, hcalls, DedupCall.renumber]
      simp [only, DedupAction.claimOf?, hset, List.map_set, DedupCall.renumber]
  · obtain ⟨hplace, -, hset⟩ := filter_of_not_rank (p := (·.key = key)) hcall (by simpa using hkey)
    refine .other (by simp [DedupAction.concerns, DedupAction.key?, hkey])
      (by simp [eventOf?, hplace]) ?_
    simp [only, hset, hkey]

theorem follows_finish {index : Nat} {outcome : Outcome} {action : DedupAction}
    (hstep : system.step (.finish index outcome) = some next)
    (haction : system.action? (.finish index outcome) = some action)
    (hnumber : ∀ call ∈ system.calls, call.key = key → ∀ cached,
      system.dedup.generationOf? key = some cached →
      (number cached = number call.generation ↔ cached = call.generation)) :
    Follows key number count system (.finish index outcome) action next := by
  obtain ⟨key', generation, hcall, hsettled, rfl⟩ := step_finish hstep
  cases hsettled.symm.trans haction
  by_cases hkey : key' = key
  · subst hkey
    obtain ⟨place, hplace, hown, herase, -⟩ :=
      filter_of_rank (p := (·.key = key')) hcall (by simp)
    have hcalls : (system.only key' number count).calls[place]? = some _ :=
      getElem?_calls_only hown
    have hsettle : (system.dedup.only key' number count).settle key' (number generation) outcome = _ :=
      Deduplicator.settle_only outcome (hnumber _ (List.mem_of_getElem? hcall) rfl)
    refine .own (by simp [DedupAction.concerns, DedupAction.key?]) (.finish place outcome) ?_ ?_ ?_
    · simp [eventOf?, hplace]
    · simp [action?, hcalls, DedupCall.renumber, DedupAction.renumber]
    · simp only [step, hcalls, DedupCall.renumber]
      simp [only, hsettle, DedupAction.claimOf?, herase, List.eraseIdx_map]
  · obtain ⟨hplace, herase, -⟩ := filter_of_not_rank (p := (·.key = key)) hcall (by simpa using hkey)
    refine .other (by simp [DedupAction.concerns, DedupAction.key?, hkey])
      (by simp [eventOf?, hplace]) ?_
    have hscheduled : (system.dedup.settle key' generation outcome).scheduled =
      system.dedup.scheduled := rfl
    simp [only, Deduplicator.only, Deduplicator.find?_settle, hscheduled, herase, Ne.symm hkey]

theorem follows_fire {index : Nat} {action : DedupAction}
    (hstep : system.step (.fire index) = some next)
    (haction : system.action? (.fire index) = some action)
    (hnumber : ∀ eviction ∈ system.dedup.scheduled, eviction.key = key → ∀ cached,
      system.dedup.generationOf? key = some cached →
      (number cached = number eviction.generation ↔ cached = eviction.generation)) :
    Follows key number count system (.fire index) action next := by
  obtain ⟨⟨key', generation⟩, hscheduled, hfired, rfl⟩ := step_fire hstep
  cases hfired.symm.trans haction
  by_cases hkey : key' = key
  · subst hkey
    obtain ⟨place, hplace, hown, herase, -⟩ :=
      filter_of_rank (p := (·.key = key')) hscheduled (by simp)
    have hevictions : (system.dedup.only key' number count).scheduled[place]? =
        some ⟨key', number generation⟩ := by
      rw [Deduplicator.only, List.getElem?_map, hown, Option.map_some]
      rfl
    have hevict : (Deduplicator.only key' number count
        { system.dedup with scheduled := system.dedup.scheduled.eraseIdx index }).evict
          ⟨key', number generation⟩ = _ :=
      Deduplicator.evict_only (hnumber _ (List.mem_of_getElem? hscheduled) rfl)
    have hrest : (system.dedup.only key' number count).scheduled.eraseIdx place =
        (Deduplicator.only key' number count
          { system.dedup with scheduled := system.dedup.scheduled.eraseIdx index }).scheduled := by
      rw [Deduplicator.only, Deduplicator.only, herase, List.eraseIdx_map]
    refine .own (by simp [DedupAction.concerns, DedupAction.key?]) (.fire place) ?_ ?_ ?_
    · simp [eventOf?, hplace]
    · simp [action?, only, hevictions, DedupAction.renumber]
    · simp only [step, only, Deduplicator.fire?, hevictions, Option.map_some, hrest,
        DedupAction.claimOf?, Option.toList_none, List.length_nil, Nat.add_zero]
      rw [← hevict]
      rfl
  · obtain ⟨hplace, herase, -⟩ :=
      filter_of_not_rank (p := (·.key = key)) hscheduled (by simpa using hkey)
    refine .other (by simp [DedupAction.concerns, DedupAction.key?, hkey])
      (by simp [eventOf?, hplace]) ?_
    simp [only, Deduplicator.only, Deduplicator.find?_evict, herase, Ne.symm hkey]

theorem follows_clear : Follows key number count system .clear .cleared
    { system with dedup := system.dedup.clear } :=
  .own rfl .clear rfl rfl rfl

end

/-- The system of a key alone follows every step, if the numbers of the key's claims are different
and the next claim has the next number. -/
theorem follows_step {log : List DedupAction} {key : RequestKey} {number : UInt64 → UInt64}
    {count : Nat} {system next : DedupSystem} {event : DedupEvent} {action : DedupAction}
    (hchronicle : Chronicle log system) (haccounted : Accounted log system)
    (hstep : system.step event = some next) (haction : system.action? event = some action)
    (hdifferent : ∀ generation generation', .claimed key generation ∈ log →
      .claimed key generation' ∈ log →
      (number generation = number generation' ↔ generation = generation'))
    (hnext : ∀ generation, action = .claimed key generation →
      number generation = UInt64.ofNat count) :
    Follows key number count system event action next := by
  cases event with
  | arrive key' => exact follows_arrive hstep haction hnext
  | schedule index => exact follows_schedule hstep haction
  | enter index => exact follows_enter hstep haction
  | finish index outcome =>
      refine follows_finish hstep haction ?_
      rintro call hcall rfl cached hcached
      exact hdifferent _ _ (haccounted.claimed_of_cached _ _ hcached)
        (hchronicle.claimed_of_call call hcall)
  | fire index =>
      refine follows_fire hstep haction ?_
      rintro eviction heviction rfl cached hcached
      have hscheduled := hchronicle.scheduled_of_eviction eviction heviction
      exact hdifferent _ _ (haccounted.claimed_of_cached _ _ hcached)
        ((hchronicle.claim_first _ _).mem hscheduled)
  | clear =>
      cases hstep
      cases haction
      exact follows_clear

end DedupSystem

/-! ## Ordinals -/

section

variable {key : RequestKey} {log : List DedupAction} {generation : UInt64}

theorem mem_claimsOf_iff : generation ∈ claimsOf key log ↔ .claimed key generation ∈ log := by
  simp only [claimsOf, List.mem_filterMap]
  constructor
  · rintro ⟨action, haction, hclaim⟩
    cases action with
    | claimed key' generation' =>
        simp only [DedupAction.claimOf?, Option.ite_none_right_eq_some, Option.some.injEq] at hclaim
        obtain ⟨rfl, rfl⟩ := hclaim
        exact haction
    | _ => cases hclaim
  · intro hmem
    exact ⟨_, hmem, by simp [DedupAction.claimOf?]⟩

theorem claimsOf_append (later : List DedupAction) :
    claimsOf key (log ++ later) = claimsOf key log ++ claimsOf key later :=
  List.filterMap_append

theorem claimsOf_concat (action : DedupAction) :
    claimsOf key (log ++ [action]) = claimsOf key log ++ (action.claimOf? key).toList := by
  simp [claimsOf, List.filterMap_eq_flatMap_toList]

/-- A key is not claimed more often than all keys together. -/
theorem length_claimsOf_le : (claimsOf key log).length ≤ claimCount log := by
  rw [claimsOf, List.length_filterMap_eq_countP]
  refine List.countP_mono_left fun action _ hclaim => ?_
  cases action with
  | claimed key' generation' => rfl
  | _ => cases hclaim

variable {claims : List UInt64}

/-- Ordinals tell the claims apart as long as they do not start over. -/
theorem ordinal_inj (hlength : claims.length < UInt64.size) {generation generation' : UInt64}
    (hmem : generation ∈ claims) (hmem' : generation' ∈ claims) :
    ordinal claims generation = ordinal claims generation' ↔ generation = generation' := by
  have hplace := List.idxOf_lt_length_of_mem hmem
  have hplace' := List.idxOf_lt_length_of_mem hmem'
  rw [← List.idxOf_inj hmem, ordinal, ordinal, ← UInt64.toNat_inj,
    UInt64.toNat_ofNat_of_lt' (by omega), UInt64.toNat_ofNat_of_lt' (by omega)]

/-- The ordinal of a claim is the number of claims before it. -/
theorem ordinal_append_cons (hfresh : generation ∉ claims) (later : List UInt64) :
    ordinal (claims ++ generation :: later) generation = UInt64.ofNat claims.length := by
  rw [ordinal, List.idxOf_append_of_notMem hfresh, List.idxOf_cons_self, Nat.add_zero]

end

/-! ## Runs -/

namespace DedupSystem

/-- What a step comes to, and the run after it. -/
theorem run_cons_of_step {system next : DedupSystem} {event : DedupEvent} {action : DedupAction}
    (hstep : system.step event = some next) (haction : system.action? event = some action)
    (later : List DedupEvent) :
    system.run (event :: later) = next.run later ∧
      system.history (event :: later) = action :: next.history later := by
  simp only [run, history, hstep, haction, Option.bind_some, and_self]

section

variable {key : RequestKey} {number : UInt64 → UInt64} {log : List DedupAction}

/-- The run of a key alone: a run that is about the key only, and in which the same is observed. -/
structure RunsAlone (key : RequestKey) (number : UInt64 → UInt64) (system alone : DedupSystem)
    (events : List DedupEvent) (final : DedupSystem) : Prop where
  run : alone.run (system.eventsOf key events) = some final
  concerns : ∀ action ∈ alone.history (system.eventsOf key events), action.concerns key
  observed : alone.observed key (system.eventsOf key events) =
    (system.observed key events).map (fun seen => (seen.1.renumber number, seen.2))

/-- A step of the run is one step of the run of the key alone, or none. -/
theorem runsAlone_cons {count : Nat} {system next final : DedupSystem} {event : DedupEvent}
    {action : DedupAction} {later : List DedupEvent} (hstep : system.step event = some next)
    (haction : system.action? event = some action)
    (hfollows : Follows key number count system event action next)
    (hrest : RunsAlone key number next
      (next.only key number (count + (action.claimOf? key).toList.length)) later final) :
    RunsAlone key number system (system.only key number count) (event :: later) final := by
  obtain ⟨hrun, hconcerns, hobserved⟩ := hrest
  cases hfollows with
  | own habout own hown hownAction hownStep =>
      have hevents : system.eventsOf key (event :: later) = own :: next.eventsOf key later := by
        simp [eventsOf, hstep, hown]
      obtain ⟨hownRun, hownHistory⟩ := run_cons_of_step hownStep hownAction (next.eventsOf key later)
      refine ⟨?_, ?_, ?_⟩
      · rw [hevents, hownRun, hrun]
      · rw [hevents, hownHistory, List.forall_mem_cons, DedupAction.concerns_renumber]
        exact ⟨habout, hconcerns⟩
      · simp only [hevents, observed, hownAction, hownStep, hstep, haction, habout,
          DedupAction.concerns_renumber, if_true, hobserved, List.map_cons]
        simp [only]
  | other hother hnone hsame =>
      have hevents : system.eventsOf key (event :: later) = next.eventsOf key later := by
        simp [eventsOf, hstep, hnone]
      have hobservedSame : system.observed key (event :: later) = next.observed key later := by
        simp [observed, hstep, haction, hother]
      rw [DedupAction.claimOf?_of_not_concerns hother, Option.toList_none, List.length_nil,
        Nat.add_zero, hsame] at hrun hconcerns hobserved
      exact ⟨hevents ▸ hrun, hevents ▸ hconcerns, by rw [hevents, hobservedSame, hobserved]⟩

/-- The run of the key alone follows every run, with its claims numbered as they come. -/
theorem runsAlone_only {claims : List UInt64} {system final : DedupSystem}
    {events : List DedupEvent} (hchronicle : Chronicle log system) (hnumbered : Numbered log system)
    (haccounted : Accounted log system) (hrun : system.run events = some final)
    (hcount : claimCount (log ++ system.history events) < UInt64.size)
    (hclaims : claimsOf key (log ++ system.history events) = claims) :
    RunsAlone key (ordinal claims) system
      (system.only key (ordinal claims) (claimsOf key log).length) events
      (final.only key (ordinal claims) claims.length) := by
  induction events generalizing log system with
  | nil =>
      cases hrun
      simp only [history, List.append_nil] at hclaims
      subst hclaims
      exact ⟨rfl, by simp [eventsOf, history], rfl⟩
  | cons event later ih =>
      simp only [run, Option.bind_eq_some_iff] at hrun
      obtain ⟨next, hstep, hlater⟩ := hrun
      obtain ⟨action, haction, hmoves⟩ := moves_of_step hstep
      obtain ⟨-, hhistory⟩ := run_cons_of_step hstep haction later
      rw [hhistory, List.append_cons] at hcount hclaims
      have hbefore : claimCount (log ++ [action]) < UInt64.size := by
        simp only [claimCount, List.countP_append] at hcount ⊢
        omega
      have hrest := ih (hchronicle.step hmoves) (hnumbered.step hmoves hbefore)
        (haccounted.step hmoves hchronicle hnumbered) hlater hcount hclaims
      rw [claimsOf_concat, List.length_append] at hrest
      refine runsAlone_cons hstep haction
        (follows_step hchronicle haccounted hstep haction ?different ?next) hrest
      case different =>
        have hlength : claims.length < UInt64.size :=
          hclaims ▸ Nat.lt_of_le_of_lt length_claimsOf_le hcount
        have hmem : ∀ generation, .claimed key generation ∈ log → generation ∈ claims := by
          intro generation hclaim
          rw [← hclaims, mem_claimsOf_iff]
          simp [hclaim]
        intro generation generation' hclaim hclaim'
        exact ordinal_inj hlength (hmem _ hclaim) (hmem _ hclaim')
      case next =>
        rintro generation rfl
        have hfresh : generation ∉ claimsOf key log := by
          rw [mem_claimsOf_iff]
          intro hclaim
          cases hmoves
          exact UInt64.lt_irrefl _ (hnumbered.claim_lt key _ hclaim)
        rw [← hclaims, claimsOf_append, claimsOf_concat]
        simpa [DedupAction.claimOf?] using ordinal_append_cons hfresh _

end

end DedupSystem

/-- In every run with fewer than 2⁶⁴ claims, the events of one key and the clearing make up a run
of their own, about that key only. Each of these events comes to the same there, with claims
numbered as the key makes them, and leaves the entry of the key in the same state. -/
theorem keys_do_not_interfere (events : List DedupEvent) (system : DedupSystem)
    (hrun : DedupSystem.empty.run events = some system)
    (hclaims : claimCount (DedupSystem.empty.history events) < UInt64.size) (key : RequestKey) :
    ∃ final,
      DedupSystem.empty.run (DedupSystem.empty.eventsOf key events) = some final ∧
      (∀ action ∈ DedupSystem.empty.history (DedupSystem.empty.eventsOf key events),
        action.concerns key) ∧
      DedupSystem.empty.observed key (DedupSystem.empty.eventsOf key events) =
        (DedupSystem.empty.observed key events).map (fun seen =>
          (seen.1.renumber (ordinal (claimsOf key (DedupSystem.empty.history events))), seen.2)) := by
  have halone : DedupSystem.RunsAlone key (ordinal (claimsOf key (DedupSystem.empty.history events)))
      DedupSystem.empty DedupSystem.empty events _ :=
    DedupSystem.runsAlone_only Chronicle.start Numbered.start Accounted.start hrun hclaims rfl
  exact ⟨_, halone.run, halone.concerns, halone.observed⟩

/-! ## A sample run

Two hosts on different links have the same address and use the same port and identifier, and
everything is forgotten while both handlers are at work. The request of the first host is claimed
again before its first run fails. -/

namespace DedupSystem.Sample

/-- A request of the host with the address `fe80::1` on the link of this scope. -/
def linkKey (scope : UInt32) : RequestKey :=
  ⟨⟨.v6 ⟨⟨[0xFE, 0x80, 0, 0, 0, 0, 0, 0, 0, 0, 0, 0, 0, 0, 0, 1], rfl⟩⟩ 0 scope, 40000⟩, 42⟩

def mixedEvents : List DedupEvent :=
  [.arrive (linkKey 3), .arrive (linkKey 2), .schedule 1, .schedule 0, .enter 0, .enter 1, .clear,
    .arrive (linkKey 2), .schedule 2, .enter 2, .finish 1 .failed, .fire 1, .fire 0,
    .arrive (linkKey 2), .finish 1 .responded]

/-- The events of the first host. -/
def ownEvents : List DedupEvent :=
  [.arrive (linkKey 2), .schedule 0, .enter 0, .clear, .arrive (linkKey 2), .schedule 1, .enter 1,
    .finish 0 .failed, .fire 0, .arrive (linkKey 2), .finish 0 .responded]

/-- The handler of the second host is still at work. -/
def mixed : DedupSystem :=
  ⟨⟨⟨[(linkKey 2, ⟨2, .settled .responded⟩)]⟩, 3, [⟨linkKey 2, 2⟩]⟩, [⟨linkKey 3, 0, .running⟩]⟩

end DedupSystem.Sample

open DedupSystem.Sample in
/-- The first host's claims are the second and the third of all, and the first and the second of
its own. -/
theorem sample_keys_do_not_interfere :
    (DedupSystem.empty.run mixedEvents = some mixed ∧
      claimCount (DedupSystem.empty.history mixedEvents) < UInt64.size) ∧
    DedupSystem.empty.eventsOf (linkKey 2) mixedEvents = ownEvents ∧
    (∃ final, DedupSystem.empty.run ownEvents = some final) ∧
    DedupSystem.empty.observed (linkKey 2) ownEvents =
      (DedupSystem.empty.observed (linkKey 2) mixedEvents).map (fun seen =>
        (seen.1.renumber (ordinal [1, 2]), seen.2)) := by
  have hrun : DedupSystem.empty.run mixedEvents = some mixed := by decide +kernel
  have hclaims : claimCount (DedupSystem.empty.history mixedEvents) < UInt64.size := by
    decide +kernel
  have hown : DedupSystem.empty.eventsOf (linkKey 2) mixedEvents = ownEvents := by decide +kernel
  have hgenerations : claimsOf (linkKey 2) (DedupSystem.empty.history mixedEvents) = [1, 2] := by
    decide +kernel
  obtain ⟨final, hfinal, -, hobserved⟩ :=
    keys_do_not_interfere mixedEvents mixed hrun hclaims (linkKey 2)
  rw [hown] at hfinal hobserved
  rw [hgenerations] at hobserved
  exact ⟨⟨hrun, hclaims⟩, hown, ⟨final, hfinal⟩, hobserved⟩

end Radius
