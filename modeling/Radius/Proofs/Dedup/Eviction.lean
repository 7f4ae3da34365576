-- SUMMARY: Each eviction removes the entry of its own claim and no other, and every cached entry has one to come.
import Radius.Proofs.Dedup.Window

/-!
# Evictions

Every claim has its eviction yet to schedule, has it scheduled, or has had it run. `Accounted`
keeps the books of this along a history, and says that what is cached was claimed and that
its eviction has not run. Since no two claims have the same generation, a cached entry
therefore has one eviction to come, also when everything was forgotten and its key claimed
again while the eviction of an earlier claim was still scheduled.
-/

namespace Radius

/-! ## Accounts -/

/-- What is cached, scheduled and done of the claims of a history. -/
structure Accounted (log : List DedupAction) (system : DedupSystem) : Prop where
  claimed_of_cached : ∀ key generation, system.dedup.generationOf? key = some generation →
    .claimed key generation ∈ log
  /-- A claim that has scheduled its eviction has it to come, or has had it run. -/
  scheduled_or_fired : ∀ key generation,
    system.dedup.scheduled.count ⟨key, generation⟩ + log.count (.fired key generation) =
      log.count (.scheduled key generation)
  not_cached_of_fired : ∀ key generation, .fired key generation ∈ log →
    system.dedup.generationOf? key ≠ some generation

namespace Accounted

theorem start : Accounted [] DedupSystem.empty := by
  constructor <;> simp [DedupSystem.empty, Deduplicator.empty, Deduplicator.generationOf?]

section

variable {log : List DedupAction} {system next : DedupSystem} {action : DedupAction}
  (h : Accounted log system) (hmoves : system.Moves action next)
include h hmoves

theorem claimed_of_cached_step (key : RequestKey) (generation : UInt64)
    (hcached : next.dedup.generationOf? key = some generation) :
    .claimed key generation ∈ log ++ [action] := by
  rcases hmoves.claimed_or_cached hcached with rfl | hold
  · exact List.mem_append_right _ (List.mem_singleton_self _)
  · exact List.mem_append_left _ (h.claimed_of_cached key generation hold)

theorem scheduled_or_fired_step (key : RequestKey) (generation : UInt64) :
    next.dedup.scheduled.count ⟨key, generation⟩ +
        (log ++ [action]).count (.fired key generation) =
      (log ++ [action]).count (.scheduled key generation) := by
  have hcounts := h.scheduled_or_fired key generation
  rw [List.count_append, List.count_append, List.count_singleton, List.count_singleton]
  cases hmoves with
  | scheduled hcall =>
      rw [Deduplicator.schedule, List.count_append, List.count_singleton]
      simp only [beq_iff_eq, Eviction.mk.injEq, DedupAction.scheduled.injEq, reduceCtorEq, if_false]
      omega
  | @fired index eviction hscheduled =>
      obtain ⟨key', generation'⟩ := eviction
      have herase := count_eraseIdx hscheduled ⟨key, generation⟩
      rw [Deduplicator.scheduled_evict]
      simp only [Eviction.mk.injEq] at herase
      simp only [beq_iff_eq, DedupAction.fired.injEq, reduceCtorEq, if_false]
      omega
  | _ => simpa [Deduplicator.settle, Deduplicator.clear] using hcounts

/-- A claim whose eviction has run is not cached again: a new claim has another generation. -/
theorem not_cached_of_fired_step (hchronicle : Chronicle log system)
    (hnumbered : Numbered log system) (key : RequestKey) (generation : UInt64)
    (hfired : .fired key generation ∈ log ++ [action]) :
    next.dedup.generationOf? key ≠ some generation := by
  intro hcached
  rw [hmoves.generationOf? key] at hcached
  rcases List.mem_append.mp hfired with hbefore | hlast
  · have hnot := h.not_cached_of_fired key generation hbefore
    cases hmoves with
    | @claimed key' hfree =>
        dsimp only at hcached
        split at hcached
        · cases hcached
          have hscheduled := (hchronicle.schedule_before_eviction key _).mem hbefore
          have hclaimed := (hchronicle.claim_first key _).mem hscheduled
          exact UInt64.lt_irrefl _ (hnumbered.claim_lt key _ hclaimed)
        · exact hnot hcached
    | fired hscheduled =>
        dsimp only at hcached
        split at hcached
        · cases hcached
        · exact hnot hcached
    | cleared => cases hcached
    | _ => exact hnot hcached
  · rw [List.mem_singleton] at hlast
    subst hlast
    dsimp only at hcached
    split at hcached
    · cases hcached
    · rename_i hother
      exact hother ⟨rfl, hcached⟩

theorem step (hchronicle : Chronicle log system) (hnumbered : Numbered log system) :
    Accounted (log ++ [action]) next where
  claimed_of_cached := h.claimed_of_cached_step hmoves
  scheduled_or_fired := h.scheduled_or_fired_step hmoves
  not_cached_of_fired := h.not_cached_of_fired_step hmoves hchronicle hnumbered

end

theorem of_run {events : List DedupEvent} {system : DedupSystem}
    (hrun : DedupSystem.empty.run events = some system)
    (hcount : claimCount (DedupSystem.empty.history events) < UInt64.size) :
    Accounted (DedupSystem.empty.history events) system :=
  (numbered_induction (fun hchronicle hnumbered h hmoves => h.step hmoves hchronicle hnumbered)
    start hrun hcount).2

end Accounted

/-! ## Evictions to come -/

section

variable {log : List DedupAction} {system : DedupSystem} {key : RequestKey} {generation : UInt64}
  (hchronicle : Chronicle log system) (hnumbered : Numbered log system)
  (haccounted : Accounted log system)
include hchronicle hnumbered haccounted

/-- A cached entry has its eviction yet to be scheduled or has it scheduled, and not both. -/
theorem claimed_or_scheduled (hcached : system.dedup.generationOf? key = some generation) :
    system.calls.count ⟨key, generation, .claimed⟩ +
      system.dedup.scheduled.count ⟨key, generation⟩ = 1 := by
  have hclaimed : log.count (.claimed key generation) = 1 :=
    Nat.le_antisymm (hnumbered.count_claimed_le key generation)
      (List.count_pos_iff.mpr (haccounted.claimed_of_cached key generation hcached))
  have hfired : log.count (.fired key generation) = 0 :=
    List.count_eq_zero.mpr fun hmem => haccounted.not_cached_of_fired key generation hmem hcached
  have hclaims := hchronicle.scheduled_or_claimed key generation
  have hscheduled := haccounted.scheduled_or_fired key generation
  omega

theorem count_scheduled (hcached : system.dedup.generationOf? key = some generation) :
    system.dedup.scheduled.count ⟨key, generation⟩ =
      if ⟨key, generation, .claimed⟩ ∈ system.calls then 0 else 1 := by
  have hone := claimed_or_scheduled hchronicle hnumbered haccounted hcached
  split
  · rename_i hmem
    have hpos := List.count_pos_iff.mpr hmem
    omega
  · rename_i hnot
    have hzero := List.count_eq_zero.mpr hnot
    omega

/-- Nothing stays cached once every claim has scheduled its eviction and every eviction has run. -/
theorem entries_eq_empty (hcalls : ∀ call ∈ system.calls, call.stage ≠ .claimed)
    (hscheduled : system.dedup.scheduled = []) : system.dedup.entries = Table.empty := by
  refine Table.eq_empty_of_find? fun key => ?_
  by_contra hfound
  obtain ⟨entry, hentry⟩ := Option.ne_none_iff_exists'.mp hfound
  have hcached : system.dedup.generationOf? key = some entry.generation := by
    rw [Deduplicator.generationOf?, hentry, Option.map_some]
  have hone := count_scheduled hchronicle hnumbered haccounted hcached
  have hnot : ⟨key, entry.generation, .claimed⟩ ∉ system.calls := by
    intro hmem
    exact hcalls _ hmem rfl
  rw [hscheduled, if_neg hnot, List.count_nil] at hone
  cases hone

end

/-! ## What an eviction removes -/

/-- What running the eviction at an index of the schedule does. -/
structure Evicts (system : DedupSystem) (index : Nat) (eviction : Eviction) (next : DedupSystem) :
    Prop where
  step : system.step (.fire index) = some next
  scheduled : next.dedup.scheduled = system.dedup.scheduled.eraseIdx index
  generation : next.dedup.generation = system.dedup.generation
  calls : next.calls = system.calls
  removed : system.dedup.generationOf? eviction.key = some eviction.generation →
    next.dedup.entries.find? eviction.key = none
  kept : system.dedup.generationOf? eviction.key ≠ some eviction.generation →
    next.dedup.entries = system.dedup.entries
  other : ∀ key, key ≠ eviction.key →
    next.dedup.entries.find? key = system.dedup.entries.find? key

theorem evicts_of_scheduled {system : DedupSystem} {index : Nat} {eviction : Eviction}
    (h : system.dedup.scheduled[index]? = some eviction) :
    ∃ next, Evicts system index eviction next := by
  obtain ⟨⟨entries, generation, scheduled⟩, calls⟩ := system
  have hentries :
      (Deduplicator.evict ⟨entries, generation, scheduled.eraseIdx index⟩ eviction).entries =
        if Deduplicator.generationOf? ⟨entries, generation, scheduled⟩ eviction.key =
            some eviction.generation then entries.erase eviction.key
        else entries :=
    Deduplicator.entries_evict _ _
  refine ⟨⟨Deduplicator.evict ⟨entries, generation, scheduled.eraseIdx index⟩ eviction, calls⟩,
    ?step, ?scheduled, ?generation, rfl, ?removed, ?kept, ?other⟩
  case step => rw [DedupSystem.step, Deduplicator.fire?, h, Option.map_some, Option.map_some]
  case scheduled => exact Deduplicator.scheduled_evict _ _
  case generation => exact Deduplicator.generation_evict _ _
  case removed =>
    intro hmatch
    rw [hentries, if_pos hmatch]
    exact Table.find?_erase_self _ _
  case kept =>
    intro hother
    rw [hentries, if_neg hother]
  case other =>
    intro key hkey
    rw [hentries]
    split
    · exact Table.find?_erase_of_ne _ hkey
    · rfl

/-- In every state that a run with fewer than 2⁶⁴ claims can reach, the cached entries have
different generations below the counter, and each has one eviction to come unless its call has yet
to schedule it. An eviction removes the entry of its own claim, if that is still cached, and
nothing else. So nothing is cached any more when every call has scheduled its eviction and every
eviction has run, whether the handlers have finished or not. -/
theorem eviction_removes_own_entry (events : List DedupEvent) (system : DedupSystem)
    (hrun : DedupSystem.empty.run events = some system)
    (hclaims : claimCount (DedupSystem.empty.history events) < UInt64.size) :
    (∀ key generation, system.dedup.generationOf? key = some generation →
      generation < system.dedup.generation ∧
        (∀ key', system.dedup.generationOf? key' = some generation → key' = key) ∧
        system.dedup.scheduled.count ⟨key, generation⟩ =
          if ⟨key, generation, .claimed⟩ ∈ system.calls then 0 else 1) ∧
    (∀ (index : Nat) (eviction : Eviction), system.dedup.scheduled[index]? = some eviction →
      ∃ next, Evicts system index eviction next) ∧
    ((∀ call ∈ system.calls, call.stage ≠ .claimed) → system.dedup.scheduled = [] →
      system.dedup.entries = Table.empty) := by
  have hchronicle := Chronicle.of_run hrun
  have hnumbered := Numbered.of_run hrun hclaims
  have haccounted := Accounted.of_run hrun hclaims
  refine ⟨?_, fun index eviction => evicts_of_scheduled,
    entries_eq_empty hchronicle hnumbered haccounted⟩
  intro key generation hcached
  have hclaimed := haccounted.claimed_of_cached key generation hcached
  refine ⟨hnumbered.claim_lt key generation hclaimed, ?_,
    count_scheduled hchronicle hnumbered haccounted hcached⟩
  intro key' hcached'
  obtain ⟨place, hplace⟩ := List.mem_iff_getElem?.mp hclaimed
  obtain ⟨place', hplace'⟩ :=
    List.mem_iff_getElem?.mp (haccounted.claimed_of_cached key' generation hcached')
  have hsame := hnumbered.claim_inj place' place key' key generation hplace' hplace
  subst hsame
  have hclaim := hplace'.symm.trans hplace
  cases hclaim
  rfl

/-! ## A sample run

A request is claimed, everything is forgotten, and it is claimed again: two evictions are scheduled
for its key. -/

namespace DedupSystem.Sample

def reclaimEvents : List DedupEvent :=
  [.arrive key, .schedule 0, .enter 0, .clear, .arrive key, .schedule 1]

/-- The handler is at work for the first claim and not yet entered for the second. -/
def reclaimed : DedupSystem :=
  ⟨⟨⟨[(key, ⟨1, .pending⟩)]⟩, 2, [⟨key, 0⟩, ⟨key, 1⟩]⟩, [⟨key, 0, .running⟩, ⟨key, 1, .scheduled⟩]⟩

end DedupSystem.Sample

open DedupSystem.Sample in
/-- The eviction that is left over spares the later claim, whose own eviction is scheduled. -/
theorem sample_eviction_removes_own_entry :
    DedupSystem.empty.run reclaimEvents = some reclaimed ∧
      claimCount (DedupSystem.empty.history reclaimEvents) < UInt64.size ∧
      reclaimed.dedup.scheduled.count ⟨key, 1⟩ = 1 ∧
      ∃ spared, reclaimed.step (.fire 0) = some spared ∧
        spared.dedup.entries = reclaimed.dedup.entries := by
  have hrun : DedupSystem.empty.run reclaimEvents = some reclaimed := by decide +kernel
  have hclaims : claimCount (DedupSystem.empty.history reclaimEvents) < UInt64.size := by
    decide +kernel
  obtain ⟨hcached, hevicts, -⟩ := eviction_removes_own_entry reclaimEvents reclaimed hrun hclaims
  obtain ⟨spared, hspared⟩ := hevicts 0 ⟨key, 0⟩ rfl
  refine ⟨hrun, hclaims, ?_, spared, hspared.step, hspared.kept (by decide)⟩
  exact ((hcached key 1 (by decide)).2.2).trans (if_neg (by decide))

end Radius
