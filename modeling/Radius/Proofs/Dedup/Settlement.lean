-- SUMMARY: An entry says what became of the handler run that its claim led to, and a late completion changes no other entry.
import Radius.Proofs.Dedup.Eviction

/-!
# Settlements

A claim is under way until its handler finishes, and it settles once. `Settlement` keeps
count of this along a history and says that a cached entry tells how its own claim has
settled, if it has. An entry that was released in the meantime has left its key to nobody
or to a claim of another generation, so the completion of the earlier claim finds nothing
of its own and changes nothing.
-/

namespace Radius

/-! ## How a claim settled -/

/-- How the action settles a claim, if it does. -/
def DedupAction.outcomeOf? (key : RequestKey) (generation : UInt64) : DedupAction → Option Outcome
  | .settled key' generation' outcome =>
      if key' = key ∧ generation' = generation then some outcome else none
  | _ => none

/-- How a claim has settled, every time that it did. -/
def outcomes (log : List DedupAction) (key : RequestKey) (generation : UInt64) : List Outcome :=
  log.filterMap (DedupAction.outcomeOf? key generation)

/-- What the entry of a claim says that has settled like this, or not at all. -/
def EntryState.ofOutcome? : Option Outcome → EntryState
  | none         => .pending
  | some outcome => .settled outcome

section

variable {log : List DedupAction} {key : RequestKey} {generation : UInt64}

theorem mem_outcomes_iff {outcome : Outcome} :
    outcome ∈ outcomes log key generation ↔ .settled key generation outcome ∈ log := by
  simp only [outcomes, List.mem_filterMap]
  constructor
  · rintro ⟨action, haction, houtcome⟩
    cases action with
    | settled key' generation' outcome' =>
        simp only [DedupAction.outcomeOf?, Option.ite_none_right_eq_some,
          Option.some.injEq] at houtcome
        obtain ⟨⟨rfl, rfl⟩, rfl⟩ := houtcome
        exact haction
    | _ => cases houtcome
  · intro hmem
    exact ⟨_, hmem, by simp [DedupAction.outcomeOf?]⟩

theorem outcomes_concat (action : DedupAction) :
    outcomes (log ++ [action]) key generation =
      outcomes log key generation ++ (action.outcomeOf? key generation).toList := by
  simp [outcomes, List.filterMap_eq_flatMap_toList]

end

/-- Whether the call is that of a claim. -/
def DedupCall.isOf (key : RequestKey) (generation : UInt64) (call : DedupCall) : Bool :=
  call.key = key ∧ call.generation = generation

/-- A call of a claim appears with the claim, goes on, and ends when the claim settles. -/
theorem DedupAction.calls_balance (action : DedupAction) (key : RequestKey) (generation : UInt64) :
    action.callAfter?.toList.countP (DedupCall.isOf key generation) +
        (action.outcomeOf? key generation).toList.length =
      action.callBefore?.toList.countP (DedupCall.isOf key generation) +
        if action = .claimed key generation then 1 else 0 := by
  cases action with
  | claimed key' generation' =>
      simp [callAfter?, callBefore?, outcomeOf?, DedupCall.isOf, List.countP_singleton]
  | settled key' generation' outcome =>
      by_cases hsame : key' = key ∧ generation' = generation
      · simp [callAfter?, callBefore?, outcomeOf?, DedupCall.isOf, hsame]
      · simp [callAfter?, callBefore?, outcomeOf?, DedupCall.isOf, hsame]
  | scheduled key' generation' => rfl
  | entered key' generation' => rfl
  | suppressed key' => rfl
  | fired key' generation' => rfl
  | cleared => rfl

/-! ## Accounts of calls and entries -/

/-- What a history says of the calls under way and of the entries. -/
structure Settlement (log : List DedupAction) (system : DedupSystem) : Prop where
  /-- A claim has settled, or its call is under way. -/
  called_or_settled : ∀ key generation,
    system.calls.countP (DedupCall.isOf key generation) + (outcomes log key generation).length =
      log.count (.claimed key generation)
  state_eq : ∀ key entry, system.dedup.entries.find? key = some entry →
    entry.state = .ofOutcome? (outcomes log key entry.generation).head?
  distinct : system.dedup.entries.Distinct

namespace Settlement

theorem start : Settlement [] DedupSystem.empty where
  called_or_settled := by simp [DedupSystem.empty, outcomes]
  state_eq := by simp [DedupSystem.empty, Deduplicator.empty]
  distinct := Table.distinct_empty

section

variable {log : List DedupAction} {system next : DedupSystem} {action : DedupAction}
  (h : Settlement log system) (hmoves : system.Moves action next)
include h hmoves

theorem called_or_settled_step (key : RequestKey) (generation : UInt64) :
    next.calls.countP (DedupCall.isOf key generation) +
        (outcomes (log ++ [action]) key generation).length =
      (log ++ [action]).count (.claimed key generation) := by
  have hcounts := h.called_or_settled key generation
  have hcalls := hmoves.countP_calls (DedupCall.isOf key generation)
  have hbalance := action.calls_balance key generation
  rw [outcomes_concat, List.length_append, List.count_append, List.count_singleton]
  simp only [beq_iff_eq]
  omega

end

section

variable {log : List DedupAction} {system : DedupSystem} (h : Settlement log system)
  (hnumbered : Numbered log system)
include h

/-- What nobody has claimed has not settled. -/
theorem outcomes_eq_nil_of_not_mem {key : RequestKey} {generation : UInt64}
    (hclaim : .claimed key generation ∉ log) : outcomes log key generation = [] := by
  have hcounts := h.called_or_settled key generation
  rw [List.count_eq_zero.mpr hclaim] at hcounts
  exact List.length_eq_zero_iff.mp (by omega)

include hnumbered

/-- A claim settles once at most. -/
theorem length_outcomes_le (key : RequestKey) (generation : UInt64) :
    system.calls.countP (DedupCall.isOf key generation) +
      (outcomes log key generation).length ≤ 1 := by
  rw [h.called_or_settled]
  exact hnumbered.count_claimed_le key generation

/-- The claim of a call under way has not settled. -/
theorem outcomes_eq_nil_of_call {call : DedupCall} (hcall : call ∈ system.calls) :
    outcomes log call.key call.generation = [] := by
  have honce := h.length_outcomes_le hnumbered call.key call.generation
  have hpos : 0 < system.calls.countP (DedupCall.isOf call.key call.generation) :=
    List.countP_pos_iff.mpr ⟨call, hcall, by simp [DedupCall.isOf]⟩
  exact List.length_eq_zero_iff.mp (by omega)

end

section

variable {log : List DedupAction} {system next : DedupSystem} {action : DedupAction}
  (h : Settlement log system) (hmoves : system.Moves action next)
include h hmoves

/-- A new entry is pending, and an entry changes when its own claim settles. -/
theorem state_eq_step (hnumbered : Numbered log system) (key : RequestKey) (entry : DedupEntry)
    (hfound : next.dedup.entries.find? key = some entry) :
    entry.state = .ofOutcome? (outcomes (log ++ [action]) key entry.generation).head? := by
  have hkept : ∀ entry, system.dedup.entries.find? key = some entry →
      action.outcomeOf? key entry.generation = none →
      entry.state = .ofOutcome? (outcomes (log ++ [action]) key entry.generation).head? := by
    intro entry hold hnone
    rw [outcomes_concat, hnone, Option.toList_none, List.append_nil]
    exact h.state_eq key entry hold
  rw [hmoves.find? key] at hfound
  cases hmoves with
  | @claimed key' hfree =>
      dsimp only at hfound
      split at hfound
      · rename_i hsame
        cases hfound
        have hfresh : .claimed key system.dedup.generation ∉ log :=
          fun hmem => UInt64.lt_irrefl _ (hnumbered.claim_lt key _ hmem)
        rw [outcomes_concat, h.outcomes_eq_nil_of_not_mem hfresh]
        rfl
      · exact hkept entry hfound rfl
  | @settled index key' generation' outcome hcall =>
      obtain ⟨old, hold, rfl⟩ := Option.map_eq_some_iff.mp hfound
      split
      · rename_i hsame
        obtain ⟨rfl, hgeneration⟩ := hsame
        have hopen : outcomes log key old.generation = [] :=
          hgeneration ▸ h.outcomes_eq_nil_of_call hnumbered (List.mem_of_getElem? hcall)
        rw [outcomes_concat, hopen]
        simp [DedupAction.outcomeOf?, hgeneration, EntryState.ofOutcome?]
      · rename_i hother
        refine hkept old hold ?_
        simp only [DedupAction.outcomeOf?, ite_eq_right_iff, reduceCtorEq, imp_false]
        rintro ⟨rfl, rfl⟩
        exact hother ⟨rfl, rfl⟩
  | fired hscheduled =>
      dsimp only at hfound
      split at hfound
      · cases hfound
      · exact hkept entry hfound rfl
  | cleared => cases hfound
  | suppressed hcached => exact hkept entry hfound rfl
  | scheduled hcall => exact hkept entry hfound rfl
  | entered hcall => exact hkept entry hfound rfl

theorem distinct_step : next.dedup.entries.Distinct := by
  cases hmoves with
  | claimed hfree => exact h.distinct.insert _ _
  | settled hcall => exact h.distinct.modify _ _
  | fired hscheduled =>
      simp only [Deduplicator.entries_evict]
      split
      · exact h.distinct.erase _
      · exact h.distinct
  | cleared => exact Table.distinct_empty
  | suppressed hcached => exact h.distinct
  | scheduled hcall => exact h.distinct
  | entered hcall => exact h.distinct

theorem step (hnumbered : Numbered log system) : Settlement (log ++ [action]) next where
  called_or_settled := h.called_or_settled_step hmoves
  state_eq := h.state_eq_step hmoves hnumbered
  distinct := h.distinct_step hmoves

end

theorem of_run {events : List DedupEvent} {system : DedupSystem}
    (hrun : DedupSystem.empty.run events = some system)
    (hcount : claimCount (DedupSystem.empty.history events) < UInt64.size) :
    Settlement (DedupSystem.empty.history events) system :=
  (numbered_induction (fun _ hnumbered h hmoves => h.step hmoves hnumbered) start hrun hcount).2

end Settlement

/-! ## What an entry says -/

/-- The entry tells how the one claim with its generation has settled, or that the call of this
claim is under way. -/
structure Truthful (log : List DedupAction) (system : DedupSystem) (key : RequestKey)
    (entry : DedupEntry) : Prop where
  claimed_once : log.count (.claimed key entry.generation) = 1
  pending_iff : entry.state = .pending ↔
    ∀ outcome, .settled key entry.generation outcome ∉ log
  settled_iff : ∀ outcome, entry.state = .settled outcome ↔
    .settled key entry.generation outcome ∈ log
  called_iff : entry.state = .pending ↔
    ∃ call ∈ system.calls, call.key = key ∧ call.generation = entry.generation

namespace Settlement

variable {log : List DedupAction} {system : DedupSystem} (h : Settlement log system)
include h

/-- A claim that was made once is under way and has not settled, or has settled once. -/
theorem called_or_settled_once {key : RequestKey} {generation : UInt64}
    (hclaimed : log.count (.claimed key generation) = 1) :
    ((∃ call ∈ system.calls, call.key = key ∧ call.generation = generation) ∧
        outcomes log key generation = []) ∨
      (¬ ∃ call ∈ system.calls, call.key = key ∧ call.generation = generation) ∧
        ∃ outcome, outcomes log key generation = [outcome] := by
  have hcounts := h.called_or_settled key generation
  have hcalled : 0 < system.calls.countP (DedupCall.isOf key generation) ↔
      ∃ call ∈ system.calls, call.key = key ∧ call.generation = generation := by
    simp only [List.countP_pos_iff, DedupCall.isOf, decide_eq_true_eq]
  rw [hclaimed] at hcounts
  rw [← hcalled, ← List.length_eq_zero_iff, ← List.length_eq_one_iff]
  omega

theorem truthful (hnumbered : Numbered log system) (haccounted : Accounted log system)
    {key : RequestKey} {entry : DedupEntry}
    (hfound : system.dedup.entries.find? key = some entry) : Truthful log system key entry := by
  have hcached : system.dedup.generationOf? key = some entry.generation := by
    rw [Deduplicator.generationOf?, hfound, Option.map_some]
  have hclaimed : log.count (.claimed key entry.generation) = 1 :=
    Nat.le_antisymm (hnumbered.count_claimed_le key entry.generation)
      (List.count_pos_iff.mpr (haccounted.claimed_of_cached key entry.generation hcached))
  have hstate := h.state_eq key entry hfound
  rcases h.called_or_settled_once hclaimed with ⟨hcall, hopen⟩ | ⟨hnone, outcome, hsettled⟩
  · rw [hopen] at hstate
    refine ⟨hclaimed, ?_, ?_, ?_⟩
    · simp [hstate, ← mem_outcomes_iff, hopen, EntryState.ofOutcome?]
    · simp [hstate, ← mem_outcomes_iff, hopen, EntryState.ofOutcome?]
    · simpa [hstate, EntryState.ofOutcome?] using hcall
  · rw [hsettled] at hstate
    refine ⟨hclaimed, ?_, ?_, ?_⟩
    · simp [hstate, ← mem_outcomes_iff, hsettled, EntryState.ofOutcome?]
    · simp [hstate, ← mem_outcomes_iff, hsettled, EntryState.ofOutcome?, eq_comm]
    · simpa [hstate, EntryState.ofOutcome?] using hnone

end Settlement

/-! ## Completions -/

/-- What it does to end a call with what its handler came to. -/
structure Completes (system : DedupSystem) (index : Nat) (key : RequestKey) (generation : UInt64)
    (handled : Handled) (next : DedupSystem) : Prop where
  /-- The caller gets what the handler came to. -/
  returned : system.complete? index handled = some (handled, next)
  step : system.step (.finish index (Outcome.ofHandled handled)) = some next
  action : system.action? (.finish index (Outcome.ofHandled handled)) =
    some (.settled key generation (Outcome.ofHandled handled))
  settled : system.dedup.generationOf? key = some generation →
    next.dedup.entries.find? key = some ⟨generation, .settled (Outcome.ofHandled handled)⟩
  stale : system.dedup.generationOf? key ≠ some generation → next.dedup = system.dedup

/-- A completion that finds no entry of its own claim changes nothing. -/
theorem Deduplicator.settle_of_stale {dedup : Deduplicator} (hdistinct : dedup.entries.Distinct)
    {key : RequestKey} {generation : UInt64} (h : dedup.generationOf? key ≠ some generation)
    (outcome : Outcome) : dedup.settle key generation outcome = dedup := by
  have hentries : dedup.entries.modify key (fun entry =>
      if entry.generation = generation then { entry with state := .settled outcome }
      else entry) = dedup.entries := by
    apply hdistinct.modify_eq_self
    intro entry hfound
    have hother : ¬ entry.generation = generation := by
      rintro rfl
      exact h (by rw [generationOf?, hfound, Option.map_some])
    exact if_neg hother
  rw [settle, hentries]

theorem completes_of_running {system : DedupSystem} (hdistinct : system.dedup.entries.Distinct)
    {index : Nat} {key : RequestKey} {generation : UInt64}
    (hcall : system.calls[index]? = some ⟨key, generation, .running⟩) (handled : Handled) :
    ∃ next, Completes system index key generation handled next := by
  have hstep : system.step (.finish index (Outcome.ofHandled handled)) =
      some ⟨system.dedup.settle key generation (Outcome.ofHandled handled),
        system.calls.eraseIdx index⟩ := by
    simp only [DedupSystem.step, hcall]
  refine ⟨_, ?_, hstep, ?_, ?_, ?_⟩
  · rw [DedupSystem.complete?, hstep, Option.map_some]
  · simp only [DedupSystem.action?, hcall]
  · intro hcached
    obtain ⟨entry, hfound, rfl⟩ := Option.map_eq_some_iff.mp hcached
    simp [Deduplicator.find?_settle, hfound]
  · intro hstale
    exact Deduplicator.settle_of_stale hdistinct hstale _

/-- A call that nothing interrupts takes its steps one after the other, and gives its caller what
the handler came to. -/
theorem handle_eq_steps {system : DedupSystem} {key : RequestKey}
    (hfree : system.dedup.generationOf? key = none) (handler : Unit → Handled) :
    (system.dedup.handle key handler).1 = handler () ∧
      ∃ entered,
        system.run [.arrive key, .schedule system.calls.length, .enter system.calls.length] =
          some entered ∧
        entered.complete? system.calls.length (handler ()) =
          some (handler (), ⟨(system.dedup.handle key handler).2, system.calls⟩) := by
  obtain ⟨generation, dedup, hclaimed⟩ := Deduplicator.exists_claim hfree
  refine ⟨?_, ⟨dedup.schedule key generation,
    system.calls ++ [⟨key, generation, .running⟩]⟩, ?_, ?_⟩
  · simp [Deduplicator.handle, Deduplicator.receive, hclaimed]
  · simp [DedupSystem.run, DedupSystem.step, hclaimed]
  · simp [DedupSystem.complete?, DedupSystem.step, Deduplicator.handle, Deduplicator.receive,
      hclaimed, List.eraseIdx_append_of_length_le]

/-- In every state that a run with fewer than 2⁶⁴ claims can reach, a cached entry is pending as
long as the one claim with its generation has not settled, and afterwards says how that claim
settled, for as long as it is cached. A call that ends gives its caller what the handler came to;
if the entry of its claim is still cached it says so from then on, and otherwise nothing changes,
whatever has become of the key. -/
theorem entries_are_truthful (events : List DedupEvent) (system : DedupSystem)
    (hrun : DedupSystem.empty.run events = some system)
    (hclaims : claimCount (DedupSystem.empty.history events) < UInt64.size) :
    (∀ key entry, system.dedup.entries.find? key = some entry →
      Truthful (DedupSystem.empty.history events) system key entry) ∧
    (∀ (later : List DedupEvent) (final : DedupSystem), system.run later = some final →
      claimCount (DedupSystem.empty.history (events ++ later)) < UInt64.size →
      ∀ key generation outcome,
        system.dedup.entries.find? key = some ⟨generation, .settled outcome⟩ →
        final.dedup.generationOf? key = some generation →
        final.dedup.entries.find? key = some ⟨generation, .settled outcome⟩) ∧
    (∀ (index : Nat) (key : RequestKey) (generation : UInt64),
      system.calls[index]? = some ⟨key, generation, .running⟩ →
      ∀ handled, ∃ next, Completes system index key generation handled next) ∧
    (∀ key, system.dedup.generationOf? key = none → ∀ handler : Unit → Handled,
      (system.dedup.handle key handler).1 = handler () ∧
        ∃ entered,
          system.run [.arrive key, .schedule system.calls.length, .enter system.calls.length] =
            some entered ∧
          entered.complete? system.calls.length (handler ()) =
            some (handler (), ⟨(system.dedup.handle key handler).2, system.calls⟩)) := by
  have hsettlement := Settlement.of_run hrun hclaims
  have hnumbered := Numbered.of_run hrun hclaims
  have haccounted := Accounted.of_run hrun hclaims
  refine ⟨fun key entry => hsettlement.truthful hnumbered haccounted, ?_,
    fun index key generation hcall => completes_of_running hsettlement.distinct hcall,
    fun key hfree => handle_eq_steps hfree⟩
  intro later final hlater hmore key generation outcome hfound hcached
  have hfinal : DedupSystem.empty.run (events ++ later) = some final := by
    rw [DedupSystem.run_append, hrun, Option.bind_some, hlater]
  have htruthful := hsettlement.truthful hnumbered haccounted hfound
  obtain ⟨entry, hentry, rfl⟩ := Option.map_eq_some_iff.mp hcached
  have hlast := (Settlement.of_run hfinal hmore).truthful (Numbered.of_run hfinal hmore)
    (Accounted.of_run hfinal hmore) hentry
  have hsettled : .settled key entry.generation outcome ∈
      DedupSystem.empty.history (events ++ later) := by
    rw [DedupSystem.history_append hrun]
    exact List.mem_append_left _ ((htruthful.settled_iff outcome).mp rfl)
  rw [hentry, ← (hlast.settled_iff outcome).mpr hsettled]

/-! ## A sample run

The handler is slow. Its entry is evicted, the request is claimed again, and the second run of the
handler responds before the first one does. -/

namespace DedupSystem.Sample

def overtakenEvents : List DedupEvent :=
  [.arrive key, .schedule 0, .enter 0, .fire 0, .arrive key, .schedule 1, .enter 1,
    .finish 1 .responded]

/-- The first run is still at work. -/
def overtaken : DedupSystem :=
  ⟨⟨⟨[(key, ⟨1, .settled .responded⟩)]⟩, 2, [⟨key, 1⟩]⟩, [⟨key, 0, .running⟩]⟩

/-- Another request of the same client. -/
def otherKey : RequestKey := { key with identifier := 43 }

end DedupSystem.Sample

open DedupSystem.Sample in
/-- The first run fails at last, which its caller learns and the entry does not. -/
theorem sample_entry_is_truthful :
    (DedupSystem.empty.run overtakenEvents = some overtaken ∧
      claimCount (DedupSystem.empty.history overtakenEvents) < UInt64.size) ∧
    .settled key 1 .responded ∈ DedupSystem.empty.history overtakenEvents ∧
    (∃ final, overtaken.run [.finish 0 .failed] = some final ∧
      final.dedup.entries.find? key = some ⟨1, .settled .responded⟩) ∧
    (∃ next, overtaken.complete? 0 (.error (.missingAttribute "User-Name")) =
        some (.error (.missingAttribute "User-Name"), next) ∧
      next.dedup = overtaken.dedup) ∧
    (overtaken.dedup.handle otherKey (fun _ => .ok none)).1 = .ok none := by
  have hrun : DedupSystem.empty.run overtakenEvents = some overtaken := by decide +kernel
  have hclaims : claimCount (DedupSystem.empty.history overtakenEvents) < UInt64.size := by
    decide +kernel
  have hlater : overtaken.run [.finish 0 .failed] = some ⟨overtaken.dedup, []⟩ := by decide +kernel
  have hmore : claimCount (DedupSystem.empty.history (overtakenEvents ++ [.finish 0 .failed])) <
      UInt64.size := by decide +kernel
  obtain ⟨htruthful, hkept, hcompletes, hhandle⟩ :=
    entries_are_truthful overtakenEvents overtaken hrun hclaims
  have hentry := htruthful key ⟨1, .settled .responded⟩ (by decide)
  obtain ⟨next, hnext⟩ := hcompletes 0 key 0 rfl (.error (.missingAttribute "User-Name"))
  refine ⟨⟨hrun, hclaims⟩, (hentry.settled_iff .responded).mp rfl, ⟨_, hlater, ?_⟩,
    ⟨next, hnext.returned, hnext.stale (by decide)⟩, (hhandle otherKey (by decide) _).1⟩
  exact hkept _ _ hlater hmore key 1 .responded (by decide) (by decide)

end Radius
