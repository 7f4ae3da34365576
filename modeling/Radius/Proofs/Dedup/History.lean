-- SUMMARY: What the events of a run come to, as one history, and what each step of a run does to the memory of requests.
import Mathlib.Data.List.NodupEquivFin
import Mathlib.Data.List.Perm.Basic
import Radius.Dedup.Run

/-!
# Histories of a deduplicator

An event names a call or an eviction by its place in a list, and what it does depends
on the state it meets. A `DedupAction` says what the event came to there: which key,
under which generation. The actions of a run make up its history, and what is proved
of runs is proved by adding one action at the end of a history. `Moves` lists what a
step can do, guards included, so that no proof has to open `step` again.
-/

namespace Radius

/-! ## Places in lists -/

section

variable {α : Type}

theorem getElem?_concat_eq_some_iff {list : List α} {last entry : α} {place : Nat} :
    (list ++ [last])[place]? = some entry ↔
      list[place]? = some entry ∨ place = list.length ∧ last = entry := by
  rcases Nat.lt_trichotomy place list.length with hlt | rfl | hgt
  · rw [List.getElem?_append_left hlt]
    simp [Nat.ne_of_lt hlt]
  · simp
  · rw [List.getElem?_append_right (Nat.le_of_lt hgt)]
    have hpos : 0 < place - list.length := Nat.sub_pos_of_lt hgt
    simp [Nat.ne_of_gt hgt, Nat.ne_of_gt hpos, Nat.le_of_lt hgt]

theorem lt_length_of_getElem? {list : List α} {entry : α} {place : Nat}
    (h : list[place]? = some entry) : place < list.length :=
  (List.getElem?_eq_some_iff.mp h).1

/-- Taking an entry out takes one away of what it counts as. -/
theorem countP_eraseIdx {list : List α} {index : Nat} {old : α} (h : list[index]? = some old)
    (p : α → Bool) :
    (list.eraseIdx index).countP p + (if p old then 1 else 0) = list.countP p := by
  obtain ⟨hindex, rfl⟩ := List.getElem?_eq_some_iff.mp h
  rw [← (List.getElem_cons_eraseIdx_perm hindex).countP_eq, List.countP_cons]

/-- Replacing an entry takes one away of what it counts as and adds what the other counts as. -/
theorem countP_set {list : List α} {index : Nat} {old : α} (h : list[index]? = some old)
    (new : α) (p : α → Bool) :
    (list.set index new).countP p + (if p old then 1 else 0) =
      list.countP p + (if p new then 1 else 0) := by
  have hnew : (list.set index new)[index]? = some new :=
    List.getElem?_set_self (lt_length_of_getElem? h)
  rw [← countP_eraseIdx h, ← countP_eraseIdx hnew, List.eraseIdx_set_eq]
  omega

variable [DecidableEq α]

theorem count_eraseIdx {list : List α} {index : Nat} {old : α} (h : list[index]? = some old)
    (entry : α) :
    (list.eraseIdx index).count entry + (if old = entry then 1 else 0) = list.count entry := by
  simpa [List.count] using countP_eraseIdx h (· == entry)

theorem two_le_count_iff {list : List α} {entry : α} :
    2 ≤ list.count entry ↔
      ∃ first last : Nat, first < last ∧ list[first]? = some entry ∧ list[last]? = some entry := by
  rw [← List.duplicate_iff_two_le_count, List.duplicate_iff_exists_distinct_get]
  simp only [List.getElem?_eq_some_iff]
  constructor
  · rintro ⟨first, last, hlt, hfirst, hlast⟩
    exact ⟨first, last, hlt, ⟨first.isLt, hfirst.symm⟩, last.isLt, hlast.symm⟩
  · rintro ⟨first, last, hlt, ⟨hfirst, rfl⟩, hlast, hsame⟩
    exact ⟨⟨first, hfirst⟩, ⟨last, hlast⟩, hlt, rfl, hsame.symm⟩

/-- An entry that occurs once stands in one place. -/
theorem place_eq_of_count_le {list : List α} {entry : α} (h : list.count entry ≤ 1)
    {place place' : Nat} (hplace : list[place]? = some entry)
    (hplace' : list[place']? = some entry) : place = place' := by
  by_contra hne
  have htwice : 2 ≤ list.count entry := by
    rcases Nat.lt_or_gt_of_ne hne with hlt | hgt
    · exact two_le_count_iff.mpr ⟨place, place', hlt, hplace, hplace'⟩
    · exact two_le_count_iff.mpr ⟨place', place, hgt, hplace', hplace⟩
  omega

end

/-! ## Actions -/

/-- What an event comes to in the state it happens in. -/
inductive DedupAction where
  /-- A request claims its key under a new generation. -/
  | claimed (key : RequestKey) (generation : UInt64)
  /-- A request is a duplicate. -/
  | suppressed (key : RequestKey)
  /-- The eviction of a claim is scheduled. -/
  | scheduled (key : RequestKey) (generation : UInt64)
  /-- The handler is entered for a claim. -/
  | entered (key : RequestKey) (generation : UInt64)
  /-- The handler of a claim finishes. -/
  | settled (key : RequestKey) (generation : UInt64) (outcome : Outcome)
  /-- The eviction of a claim runs. -/
  | fired (key : RequestKey) (generation : UInt64)
  | cleared
deriving DecidableEq, Repr

def DedupAction.isClaim : DedupAction → Bool
  | .claimed _ _ => true
  | _            => false

/-- The call that takes a step by the action, as it was before; none if no call was there. -/
def DedupAction.callBefore? : DedupAction → Option DedupCall
  | .scheduled key generation => some ⟨key, generation, .claimed⟩
  | .entered key generation   => some ⟨key, generation, .scheduled⟩
  | .settled key generation _ => some ⟨key, generation, .running⟩
  | _                         => none

/-- The call that takes a step by the action, as it is afterwards; none if no call is left. -/
def DedupAction.callAfter? : DedupAction → Option DedupCall
  | .claimed key generation   => some ⟨key, generation, .claimed⟩
  | .scheduled key generation => some ⟨key, generation, .scheduled⟩
  | .entered key generation   => some ⟨key, generation, .running⟩
  | _                         => none

/-- How many requests claimed their key. -/
def claimCount (log : List DedupAction) : Nat := log.countP DedupAction.isClaim

theorem claimCount_concat (log : List DedupAction) (action : DedupAction) :
    claimCount (log ++ [action]) = claimCount log + if action.isClaim then 1 else 0 := by
  rw [claimCount, claimCount, List.countP_append, List.countP_singleton]

namespace DedupSystem

/-- What an event comes to; none if it cannot happen. -/
def action? (system : DedupSystem) : DedupEvent → Option DedupAction
  | .arrive key =>
      match system.dedup.claim key with
      | none                 => some (.suppressed key)
      | some (generation, _) => some (.claimed key generation)
  | .schedule index =>
      match system.calls[index]? with
      | some ⟨key, generation, .claimed⟩ => some (.scheduled key generation)
      | _                                => none
  | .enter index =>
      match system.calls[index]? with
      | some ⟨key, generation, .scheduled⟩ => some (.entered key generation)
      | _                                  => none
  | .finish index outcome =>
      match system.calls[index]? with
      | some ⟨key, generation, .running⟩ => some (.settled key generation outcome)
      | _                                => none
  | .fire index =>
      (system.dedup.scheduled[index]?).map (fun eviction =>
        .fired eviction.key eviction.generation)
  | .clear => some .cleared

/-- What the events of a run come to, one after the other. -/
def history (system : DedupSystem) : List DedupEvent → List DedupAction
  | [] => []
  | event :: later =>
      match system.action? event, system.step event with
      | some action, some next => action :: next.history later
      | _,           _         => []

end DedupSystem

/-! ## Cached generations -/

namespace Deduplicator

/-- The generation of the entry that a key has. -/
def generationOf? (dedup : Deduplicator) (key : RequestKey) : Option UInt64 :=
  (dedup.entries.find? key).map (·.generation)

theorem claim_eq_none_iff {dedup : Deduplicator} {key : RequestKey} :
    dedup.claim key = none ↔ dedup.generationOf? key ≠ none := by
  rw [claim, Table.contains, generationOf?]
  cases dedup.entries.find? key with
  | none => simp
  | some entry => simp

theorem exists_claim {dedup : Deduplicator} {key : RequestKey}
    (hfree : dedup.generationOf? key = none) :
    ∃ generation next, dedup.claim key = some (generation, next) := by
  have hclaim : dedup.claim key ≠ none := fun hnone => claim_eq_none_iff.mp hnone hfree
  obtain ⟨⟨generation, next⟩, hclaimed⟩ := Option.ne_none_iff_exists'.mp hclaim
  exact ⟨generation, next, hclaimed⟩

theorem claim_eq_some {dedup next : Deduplicator} {key : RequestKey} {generation : UInt64}
    (h : dedup.claim key = some (generation, next)) :
    dedup.generationOf? key = none ∧ generation = dedup.generation ∧
      next = { dedup with
        entries := dedup.entries.insert key ⟨dedup.generation, .pending⟩
        generation := dedup.generation + 1 } := by
  rw [claim, Table.contains] at h
  rw [generationOf?]
  cases hfind : dedup.entries.find? key with
  | none =>
      rw [hfind] at h
      cases h
      exact ⟨rfl, rfl, rfl⟩
  | some entry =>
      rw [hfind] at h
      cases h

/-- Settling changes what the entry of a claim says. -/
theorem find?_settle (dedup : Deduplicator) (key other : RequestKey) (generation : UInt64)
    (outcome : Outcome) :
    (dedup.settle key generation outcome).entries.find? other =
      (dedup.entries.find? other).map (fun entry =>
        if other = key ∧ entry.generation = generation then
          { entry with state := .settled outcome }
        else entry) := by
  rw [settle, Table.find?_modify]
  by_cases hkey : other = key
  · subst hkey
    simp
  · simp [hkey]

/-- Settling does not change whose an entry is. -/
@[simp] theorem generationOf?_settle (dedup : Deduplicator) (key other : RequestKey)
    (generation : UInt64) (outcome : Outcome) :
    (dedup.settle key generation outcome).generationOf? other = dedup.generationOf? other := by
  simp only [generationOf?, find?_settle, Option.map_map]
  congr 1
  funext entry
  dsimp only [Function.comp_apply]
  split <;> rfl

/-- An eviction takes the entry of its key away if that has its generation. -/
theorem evict_eq (dedup : Deduplicator) (eviction : Eviction) :
    dedup.evict eviction =
      { dedup with
        entries :=
          if dedup.generationOf? eviction.key = some eviction.generation then
            dedup.entries.erase eviction.key
          else dedup.entries } := by
  rw [evict, generationOf?]
  cases dedup.entries.find? eviction.key with
  | none => rfl
  | some entry =>
      by_cases hgeneration : entry.generation = eviction.generation
      · simp [hgeneration]
      · simp [hgeneration]

section

variable (dedup : Deduplicator) (eviction : Eviction)

theorem entries_evict : (dedup.evict eviction).entries =
    if dedup.generationOf? eviction.key = some eviction.generation then
      dedup.entries.erase eviction.key
    else dedup.entries := by
  rw [evict_eq]

@[simp] theorem generation_evict : (dedup.evict eviction).generation = dedup.generation := by
  rw [evict_eq]

@[simp] theorem scheduled_evict : (dedup.evict eviction).scheduled = dedup.scheduled := by
  rw [evict_eq]

end

theorem find?_evict (dedup : Deduplicator) (eviction : Eviction) (other : RequestKey) :
    (dedup.evict eviction).entries.find? other =
      if other = eviction.key ∧ dedup.generationOf? other = some eviction.generation then none
      else dedup.entries.find? other := by
  rw [entries_evict]
  by_cases hkey : other = eviction.key
  · subst hkey
    simp only [true_and]
    split
    · exact Table.find?_erase_self _ _
    · rfl
  · rw [if_neg (fun hboth : other = eviction.key ∧ _ => hkey hboth.1)]
    split
    · exact Table.find?_erase_of_ne _ hkey
    · rfl

end Deduplicator

/-! ## Steps -/

namespace DedupSystem

/-- What a step does, by what it comes to. -/
inductive Moves (system : DedupSystem) : DedupAction → DedupSystem → Prop
  | suppressed {key : RequestKey} (hcached : system.dedup.generationOf? key ≠ none) :
      Moves system (.suppressed key) system
  | claimed {key : RequestKey} (hfree : system.dedup.generationOf? key = none) :
      Moves system (.claimed key system.dedup.generation)
        { dedup := { system.dedup with
            entries := system.dedup.entries.insert key ⟨system.dedup.generation, .pending⟩
            generation := system.dedup.generation + 1 }
          calls := system.calls ++ [⟨key, system.dedup.generation, .claimed⟩] }
  | scheduled {index : Nat} {key : RequestKey} {generation : UInt64}
      (hcall : system.calls[index]? = some ⟨key, generation, .claimed⟩) :
      Moves system (.scheduled key generation)
        { dedup := system.dedup.schedule key generation
          calls := system.calls.set index ⟨key, generation, .scheduled⟩ }
  | entered {index : Nat} {key : RequestKey} {generation : UInt64}
      (hcall : system.calls[index]? = some ⟨key, generation, .scheduled⟩) :
      Moves system (.entered key generation)
        { system with calls := system.calls.set index ⟨key, generation, .running⟩ }
  | settled {index : Nat} {key : RequestKey} {generation : UInt64} {outcome : Outcome}
      (hcall : system.calls[index]? = some ⟨key, generation, .running⟩) :
      Moves system (.settled key generation outcome)
        { dedup := system.dedup.settle key generation outcome
          calls := system.calls.eraseIdx index }
  | fired {index : Nat} {eviction : Eviction}
      (hscheduled : system.dedup.scheduled[index]? = some eviction) :
      Moves system (.fired eviction.key eviction.generation)
        { system with dedup :=
          { system.dedup with scheduled := system.dedup.scheduled.eraseIdx index }.evict eviction }
  | cleared : Moves system .cleared { system with dedup := system.dedup.clear }

section

variable {system next : DedupSystem} {index : Nat}

/-- A call that schedules its eviction has claimed its key and done no more. -/
theorem step_schedule (h : system.step (.schedule index) = some next) :
    ∃ key generation, system.calls[index]? = some ⟨key, generation, .claimed⟩ ∧
      system.action? (.schedule index) = some (.scheduled key generation) ∧
      next = ⟨system.dedup.schedule key generation,
        system.calls.set index ⟨key, generation, .scheduled⟩⟩ := by
  simp only [step] at h
  split at h
  · rename_i key generation hcall
    cases h
    exact ⟨key, generation, hcall, by simp only [action?, hcall], rfl⟩
  · cases h

/-- A call that enters the handler has scheduled its eviction. -/
theorem step_enter (h : system.step (.enter index) = some next) :
    ∃ key generation, system.calls[index]? = some ⟨key, generation, .scheduled⟩ ∧
      system.action? (.enter index) = some (.entered key generation) ∧
      next = { system with calls := system.calls.set index ⟨key, generation, .running⟩ } := by
  simp only [step] at h
  split at h
  · rename_i key generation hcall
    cases h
    exact ⟨key, generation, hcall, by simp only [action?, hcall], rfl⟩
  · cases h

/-- A call that finishes has entered the handler. -/
theorem step_finish {outcome : Outcome} (h : system.step (.finish index outcome) = some next) :
    ∃ key generation, system.calls[index]? = some ⟨key, generation, .running⟩ ∧
      system.action? (.finish index outcome) = some (.settled key generation outcome) ∧
      next = ⟨system.dedup.settle key generation outcome, system.calls.eraseIdx index⟩ := by
  simp only [step] at h
  split at h
  · rename_i key generation hcall
    cases h
    exact ⟨key, generation, hcall, by simp only [action?, hcall], rfl⟩
  · cases h

/-- An eviction that runs was scheduled. -/
theorem step_fire (h : system.step (.fire index) = some next) :
    ∃ eviction, system.dedup.scheduled[index]? = some eviction ∧
      system.action? (.fire index) = some (.fired eviction.key eviction.generation) ∧
      next = { system with dedup :=
        { system.dedup with scheduled := system.dedup.scheduled.eraseIdx index }.evict eviction } := by
  simp only [step, Deduplicator.fire?, Option.map_map, Option.map_eq_some_iff] at h
  obtain ⟨eviction, hscheduled, rfl⟩ := h
  exact ⟨eviction, hscheduled, by simp only [action?, hscheduled, Option.map_some], rfl⟩

theorem moves_of_step {event : DedupEvent}
    (h : system.step event = some next) :
    ∃ action, system.action? event = some action ∧ system.Moves action next := by
  cases event with
  | arrive key =>
      cases hclaim : system.dedup.claim key with
      | none =>
          simp only [step, hclaim, Option.some.injEq] at h
          subst h
          refine ⟨.suppressed key, by simp only [action?, hclaim], ?_⟩
          exact .suppressed (Deduplicator.claim_eq_none_iff.mp hclaim)
      | some claim =>
          obtain ⟨generation, dedup⟩ := claim
          obtain ⟨hfree, rfl, rfl⟩ := Deduplicator.claim_eq_some hclaim
          simp only [step, hclaim, Option.some.injEq] at h
          subst h
          exact ⟨_, by simp only [action?, hclaim], .claimed hfree⟩
  | schedule index =>
      obtain ⟨key, generation, hcall, haction, rfl⟩ := step_schedule h
      exact ⟨_, haction, .scheduled hcall⟩
  | enter index =>
      obtain ⟨key, generation, hcall, haction, rfl⟩ := step_enter h
      exact ⟨_, haction, .entered hcall⟩
  | finish index outcome =>
      obtain ⟨key, generation, hcall, haction, rfl⟩ := step_finish h
      exact ⟨_, haction, .settled hcall⟩
  | fire index =>
      obtain ⟨eviction, hscheduled, haction, rfl⟩ := step_fire h
      exact ⟨_, haction, .fired hscheduled⟩
  | clear =>
      cases h
      exact ⟨.cleared, rfl, .cleared⟩

end

/-- What every step keeps, a run keeps: the one induction over runs. -/
theorem run_induction {P : List DedupAction → DedupSystem → Prop}
    (hstep : ∀ {log system action next}, P log system → Moves system action next →
      P (log ++ [action]) next)
    {log : List DedupAction} {system final : DedupSystem} {events : List DedupEvent}
    (hstart : P log system) (hrun : system.run events = some final) :
    P (log ++ system.history events) final := by
  induction events generalizing log system with
  | nil =>
      cases hrun
      rwa [history, List.append_nil]
  | cons event later ih =>
      simp only [run, Option.bind_eq_some_iff] at hrun
      obtain ⟨next, hnext, hlater⟩ := hrun
      obtain ⟨action, haction, hmoves⟩ := moves_of_step hnext
      have hhistory : system.history (event :: later) = [action] ++ next.history later := by
        simp only [history, haction, hnext, List.singleton_append]
      rw [hhistory, ← List.append_assoc]
      exact ih (hstep hstart hmoves) hlater

/-- The calls after a step: one call goes on from where it was, and the others stay. -/
theorem Moves.countP_calls {system next : DedupSystem} {action : DedupAction}
    (h : Moves system action next) (p : DedupCall → Bool) :
    next.calls.countP p + action.callBefore?.toList.countP p =
      system.calls.countP p + action.callAfter?.toList.countP p := by
  cases h with
  | claimed hfree => exact List.countP_append
  | scheduled hcall =>
      simpa only [DedupAction.callBefore?, DedupAction.callAfter?, Option.toList_some,
        List.countP_singleton] using countP_set hcall _ p
  | entered hcall =>
      simpa only [DedupAction.callBefore?, DedupAction.callAfter?, Option.toList_some,
        List.countP_singleton] using countP_set hcall _ p
  | settled hcall =>
      simpa only [DedupAction.callBefore?, DedupAction.callAfter?, Option.toList_some,
        Option.toList_none, List.countP_singleton, List.countP_nil, Nat.add_zero]
        using countP_eraseIdx hcall p
  | _ => rfl

/-- A call under way after a step was so before, or the step has led it where it is. -/
theorem Moves.mem_calls {system next : DedupSystem} {action : DedupAction} {call : DedupCall}
    (h : Moves system action next) (hcall : call ∈ next.calls) :
    call ∈ system.calls ∨ action.callAfter? = some call := by
  cases h with
  | claimed hfree =>
      rcases List.mem_append.mp hcall with hold | hnew
      · exact .inl hold
      · exact .inr (congrArg some (List.mem_singleton.mp hnew).symm)
  | scheduled hclaimed =>
      rcases List.mem_or_eq_of_mem_set hcall with hold | rfl
      · exact .inl hold
      · exact .inr rfl
  | entered hwaiting =>
      rcases List.mem_or_eq_of_mem_set hcall with hold | rfl
      · exact .inl hold
      · exact .inr rfl
  | settled hrunning => exact .inl (List.mem_of_mem_eraseIdx hcall)
  | _ => exact .inl hcall

/-- The call that takes a step is under way. -/
theorem Moves.mem_of_callBefore? {system next : DedupSystem} {action : DedupAction}
    {call : DedupCall} (h : Moves system action next) (hcall : action.callBefore? = some call) :
    call ∈ system.calls := by
  cases h with
  | scheduled hclaimed =>
      cases hcall
      exact List.mem_of_getElem? hclaimed
  | entered hwaiting =>
      cases hcall
      exact List.mem_of_getElem? hwaiting
  | settled hrunning =>
      cases hcall
      exact List.mem_of_getElem? hrunning
  | _ => cases hcall

/-- The calls at a stage are those that one action has led there and that no other action has led
on from there. -/
theorem Moves.count_calls {log : List DedupAction} {system next : DedupSystem}
    {action into onward : DedupAction} {call : DedupCall} (h : Moves system action next)
    (hinto : ∀ action : DedupAction, action.callAfter? = some call ↔ action = into)
    (honward : ∀ action : DedupAction, action.callBefore? = some call ↔ action = onward)
    (hcounts : log.count onward + system.calls.count call = log.count into) :
    (log ++ [action]).count onward + next.calls.count call = (log ++ [action]).count into := by
  have hsingle : ∀ found : Option DedupCall,
      found.toList.count call = if found = some call then 1 else 0 := by
    intro found
    cases found with
    | none => rfl
    | some other => simp [List.count_singleton]
  have hcalls : next.calls.count call + action.callBefore?.toList.count call =
      system.calls.count call + action.callAfter?.toList.count call :=
    h.countP_calls (· == call)
  simp only [hsingle, hinto, honward] at hcalls
  simp only [List.count_append, List.count_singleton, beq_iff_eq]
  omega

/-- The entries after a step. -/
theorem Moves.find? {system next : DedupSystem} {action : DedupAction}
    (h : Moves system action next) (other : RequestKey) :
    next.dedup.entries.find? other =
      match action with
      | .claimed key generation =>
          if other = key then some ⟨generation, .pending⟩ else system.dedup.entries.find? other
      | .settled key generation outcome =>
          (system.dedup.entries.find? other).map (fun entry =>
            if other = key ∧ entry.generation = generation then
              { entry with state := .settled outcome }
            else entry)
      | .fired key generation =>
          if other = key ∧ system.dedup.generationOf? other = some generation then none
          else system.dedup.entries.find? other
      | .cleared => none
      | _ => system.dedup.entries.find? other := by
  cases h with
  | suppressed hcached => rfl
  | claimed hfree => exact Table.find?_insert _ _ _ _
  | scheduled hcall => rfl
  | entered hcall => rfl
  | settled hcall => exact Deduplicator.find?_settle _ _ _ _ _
  | fired hscheduled => exact Deduplicator.find?_evict _ _ _
  | cleared => rfl

/-- What is cached after a step. -/
theorem Moves.generationOf? {system next : DedupSystem} {action : DedupAction}
    (h : Moves system action next) (other : RequestKey) :
    next.dedup.generationOf? other =
      match action with
      | .claimed key generation =>
          if other = key then some generation else system.dedup.generationOf? other
      | .fired key generation =>
          if other = key ∧ system.dedup.generationOf? other = some generation then none
          else system.dedup.generationOf? other
      | .cleared => none
      | _ => system.dedup.generationOf? other := by
  have hfind := h.find? other
  cases h with
  | settled hcall => exact Deduplicator.generationOf?_settle _ _ _ _ _
  | claimed hfree =>
      rw [Deduplicator.generationOf?, hfind]
      dsimp only
      split <;> rfl
  | fired hscheduled =>
      rw [Deduplicator.generationOf?, hfind]
      dsimp only
      split <;> rfl
  | _ => rfl

/-- Only a claim caches anything. -/
theorem Moves.claimed_or_cached {system next : DedupSystem} {action : DedupAction}
    (h : Moves system action next) {key : RequestKey} {generation : UInt64}
    (hcached : next.dedup.generationOf? key = some generation) :
    action = .claimed key generation ∨ system.dedup.generationOf? key = some generation := by
  rw [h.generationOf? key] at hcached
  cases action with
  | claimed key' generation' =>
      dsimp only at hcached
      split at hcached
      · rename_i hsame
        cases hcached
        exact .inl (by rw [hsame])
      · exact .inr hcached
  | fired key' generation' =>
      dsimp only at hcached
      split at hcached
      · cases hcached
      · exact .inr hcached
  | cleared => cases hcached
  | _ => exact .inr hcached

/-- The counter after a step. -/
theorem Moves.generation {system next : DedupSystem} {action : DedupAction}
    (h : Moves system action next) :
    next.dedup.generation =
      if action.isClaim then system.dedup.generation + 1 else system.dedup.generation := by
  cases h with
  | fired hscheduled => exact Deduplicator.generation_evict _ _
  | _ => rfl

/-! ## Runs that go on -/

theorem run_append (system : DedupSystem) (events later : List DedupEvent) :
    system.run (events ++ later) = (system.run events).bind (·.run later) := by
  induction events generalizing system with
  | nil => rfl
  | cons event events ih =>
      rw [List.cons_append, run, run, Option.bind_assoc]
      congr 1
      funext next
      exact ih next

theorem history_append {system next : DedupSystem} {events : List DedupEvent}
    (hrun : system.run events = some next) (later : List DedupEvent) :
    system.history (events ++ later) = system.history events ++ next.history later := by
  induction events generalizing system with
  | nil =>
      cases hrun
      rfl
  | cons event events ih =>
      simp only [run, Option.bind_eq_some_iff] at hrun
      obtain ⟨first, hfirst, hrest⟩ := hrun
      obtain ⟨action, haction, -⟩ := moves_of_step hfirst
      simp only [List.cons_append, history, haction, hfirst]
      rw [ih hrest]

/-! ## Keys that have come -/

/-- Only an arriving request claims a key. -/
theorem eq_arrive_of_claimed {system : DedupSystem} {event : DedupEvent} {key : RequestKey}
    {generation : UInt64} (h : system.action? event = some (.claimed key generation)) :
    event = .arrive key := by
  cases event with
  | arrive key' =>
      simp only [action?] at h
      split at h
      · cases h
      · cases h
        rfl
  | schedule index =>
      simp only [action?] at h
      split at h <;> cases h
  | enter index =>
      simp only [action?] at h
      split at h <;> cases h
  | finish index outcome =>
      simp only [action?] at h
      split at h <;> cases h
  | fire index =>
      obtain ⟨eviction, -, heq⟩ := Option.map_eq_some_iff.mp h
      cases heq
  | clear => cases h

/-- What is cached after a run was requested in it, or was cached before. -/
theorem mem_or_cached_of_run {system final : DedupSystem} {events : List DedupEvent}
    {key : RequestKey} {generation : UInt64} (hrun : system.run events = some final)
    (hcached : final.dedup.generationOf? key = some generation) :
    .arrive key ∈ events ∨ system.dedup.generationOf? key = some generation := by
  induction events generalizing system with
  | nil =>
      cases hrun
      exact .inr hcached
  | cons event events ih =>
      simp only [run, Option.bind_eq_some_iff] at hrun
      obtain ⟨next, hnext, hlater⟩ := hrun
      rcases ih hlater with hmem | hbefore
      · exact .inl (List.mem_cons_of_mem event hmem)
      obtain ⟨action, haction, hmoves⟩ := moves_of_step hnext
      rcases hmoves.claimed_or_cached hbefore with rfl | hstart
      · rw [eq_arrive_of_claimed haction]
        exact .inl List.mem_cons_self
      · exact .inr hstart

end DedupSystem
end Radius
