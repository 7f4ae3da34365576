-- SUMMARY: The handler runs at most once per key and window: between two claims of a key, the first one's eviction has run or everything was forgotten.
import Mathlib.Order.Monotone.Basic
import Radius.Proofs.Dedup.History

/-!
# Windows

A claimed key stays cached, under the generation of its claim, until the eviction of that
claim runs or everything is forgotten. Whoever claims the key again therefore finds one
of the two behind the earlier claim. `Chronicle` says this of a history and of the state
that it leads to, in any order of the steps of any calls. While fewer than 2⁶⁴ requests
have claimed a key, `Numbered` gives each claim a generation of its own, so an eviction
that runs is known to be that of one claim, and a timer that keeps its delay keeps the
runs of the handler for one key apart.
-/

namespace Radius

/-! ## Before and between -/

/-- Wherever one action stands in a history, the other one stands before it. -/
def Preceded (log : List DedupAction) (earlier later : DedupAction) : Prop :=
  ∀ place : Nat, log[place]? = some later →
    ∃ before, before < place ∧ log[before]? = some earlier

/-- Between two places of a history the eviction of a claim runs or everything is forgotten. -/
def Released (log : List DedupAction) (key : RequestKey) (generation : UInt64)
    (first last : Nat) : Prop :=
  ∃ place, first < place ∧ place < last ∧
    (log[place]? = some (.fired key generation) ∨ log[place]? = some .cleared)

section

variable {log : List DedupAction}

theorem Preceded.concat {earlier later last : DedupAction} (h : Preceded log earlier later)
    (hlast : last = later → earlier ∈ log) : Preceded (log ++ [last]) earlier later := by
  intro place hplace
  rcases getElem?_concat_eq_some_iff.mp hplace with hold | ⟨rfl, hnew⟩
  · obtain ⟨before, hbefore, hearlier⟩ := h place hold
    exact ⟨before, hbefore, getElem?_concat_eq_some_iff.mpr (.inl hearlier)⟩
  · obtain ⟨before, hearlier⟩ := List.mem_iff_getElem?.mp (hlast hnew)
    exact ⟨before, lt_length_of_getElem? hearlier, getElem?_concat_eq_some_iff.mpr (.inl hearlier)⟩

theorem Preceded.mem {earlier later : DedupAction} (h : Preceded log earlier later)
    (hmem : later ∈ log) : earlier ∈ log := by
  obtain ⟨place, hplace⟩ := List.mem_iff_getElem?.mp hmem
  obtain ⟨before, -, hbefore⟩ := h place hplace
  exact List.mem_of_getElem? hbefore

variable {key : RequestKey} {generation : UInt64} {first last : Nat}

theorem Released.concat (h : Released log key generation first last) (action : DedupAction) :
    Released (log ++ [action]) key generation first last := by
  obtain ⟨place, hfirst, hlast, hfired | hcleared⟩ := h
  · exact ⟨place, hfirst, hlast, .inl (getElem?_concat_eq_some_iff.mpr (.inl hfired))⟩
  · exact ⟨place, hfirst, hlast, .inr (getElem?_concat_eq_some_iff.mpr (.inl hcleared))⟩

theorem Released.mono {later : Nat} (h : Released log key generation first last)
    (hle : last ≤ later) : Released log key generation first later := by
  obtain ⟨place, hfirst, hlast, hreleased⟩ := h
  exact ⟨place, hfirst, Nat.lt_of_lt_of_le hlast hle, hreleased⟩

/-- The last action releases a claim if it runs its eviction or forgets everything. -/
theorem released_of_last (hfirst : first < log.length) {action : DedupAction}
    (h : action = .fired key generation ∨ action = .cleared) :
    Released (log ++ [action]) key generation first (log ++ [action]).length := by
  refine ⟨log.length, hfirst, by simp, ?_⟩
  rcases h with rfl | rfl
  · exact .inl List.getElem?_concat_length
  · exact .inr List.getElem?_concat_length

end

/-! ## What a history says of the state -/

/-- The order of the actions of a history, and what the state still holds of them. -/
structure Chronicle (log : List DedupAction) (system : DedupSystem) : Prop where
  claimed_of_call : ∀ call ∈ system.calls, .claimed call.key call.generation ∈ log
  scheduled_of_call : ∀ key generation, ⟨key, generation, .scheduled⟩ ∈ system.calls →
    .scheduled key generation ∈ log
  scheduled_of_eviction : ∀ eviction ∈ system.dedup.scheduled,
    .scheduled eviction.key eviction.generation ∈ log
  /-- A claim has scheduled its eviction, or its call has not come so far yet. -/
  scheduled_or_claimed : ∀ key generation,
    log.count (.scheduled key generation) + system.calls.count ⟨key, generation, .claimed⟩ =
      log.count (.claimed key generation)
  /-- A claim whose eviction is scheduled has entered the handler, or its call waits to do so. -/
  entered_or_scheduled : ∀ key generation,
    log.count (.entered key generation) + system.calls.count ⟨key, generation, .scheduled⟩ =
      log.count (.scheduled key generation)
  claim_first : ∀ key generation,
    Preceded log (.claimed key generation) (.scheduled key generation)
  schedule_first : ∀ key generation,
    Preceded log (.scheduled key generation) (.entered key generation)
  schedule_before_eviction : ∀ key generation,
    Preceded log (.scheduled key generation) (.fired key generation)
  cached_or_released : ∀ (place : Nat) (key : RequestKey) (generation : UInt64),
    log[place]? = some (.claimed key generation) →
    system.dedup.generationOf? key = some generation ∨
      Released log key generation place log.length
  released : ∀ (first last : Nat) (key : RequestKey) (generation generation' : UInt64),
    first < last → log[first]? = some (.claimed key generation) →
    log[last]? = some (.claimed key generation') → Released log key generation first last

namespace Chronicle

theorem start : Chronicle [] DedupSystem.empty := by
  constructor <;> simp [DedupSystem.empty, Deduplicator.empty, Preceded]

section

variable {log : List DedupAction} {system next : DedupSystem} {action : DedupAction}
  (h : Chronicle log system) (hmoves : system.Moves action next)
include h hmoves

theorem claimed_of_call_step (call : DedupCall) (hcall : call ∈ next.calls) :
    .claimed call.key call.generation ∈ log ++ [action] := by
  have hkept : ∀ call ∈ system.calls, .claimed call.key call.generation ∈ log ++ [action] :=
    fun call hcall => List.mem_append_left _ (h.claimed_of_call call hcall)
  rcases hmoves.mem_calls hcall with hold | hnew
  · exact hkept call hold
  cases action with
  | claimed key generation =>
      cases hnew
      exact List.mem_append_right _ (List.mem_singleton_self _)
  | scheduled key generation =>
      cases hnew
      exact hkept ⟨key, generation, .claimed⟩ (hmoves.mem_of_callBefore? rfl)
  | entered key generation =>
      cases hnew
      exact hkept ⟨key, generation, .scheduled⟩ (hmoves.mem_of_callBefore? rfl)
  | _ => cases hnew

theorem scheduled_of_call_step (key : RequestKey) (generation : UInt64)
    (hcall : ⟨key, generation, .scheduled⟩ ∈ next.calls) :
    .scheduled key generation ∈ log ++ [action] := by
  rcases hmoves.mem_calls hcall with hold | hnew
  · exact List.mem_append_left _ (h.scheduled_of_call key generation hold)
  cases action with
  | scheduled key' generation' =>
      cases hnew
      exact List.mem_append_right _ (List.mem_singleton_self _)
  | _ => cases hnew

theorem scheduled_of_eviction_step (eviction : Eviction)
    (heviction : eviction ∈ next.dedup.scheduled) :
    .scheduled eviction.key eviction.generation ∈ log ++ [action] := by
  have hkept : ∀ eviction ∈ system.dedup.scheduled,
      .scheduled eviction.key eviction.generation ∈ log ++ [action] :=
    fun eviction hold => List.mem_append_left _ (h.scheduled_of_eviction eviction hold)
  cases hmoves with
  | scheduled hcall =>
      rcases List.mem_append.mp heviction with hold | hnew
      · exact hkept eviction hold
      · rw [List.mem_singleton] at hnew
        subst hnew
        exact List.mem_append_right _ (List.mem_singleton_self _)
  | fired hscheduled =>
      rw [Deduplicator.scheduled_evict] at heviction
      exact hkept eviction (List.mem_of_mem_eraseIdx heviction)
  | _ => exact hkept eviction heviction

theorem scheduled_or_claimed_step (key : RequestKey) (generation : UInt64) :
    (log ++ [action]).count (.scheduled key generation) +
        next.calls.count ⟨key, generation, .claimed⟩ =
      (log ++ [action]).count (.claimed key generation) := by
  refine hmoves.count_calls ?_ ?_ (h.scheduled_or_claimed key generation)
  · intro action
    cases action <;> simp [DedupAction.callAfter?]
  · intro action
    cases action <;> simp [DedupAction.callBefore?]

theorem entered_or_scheduled_step (key : RequestKey) (generation : UInt64) :
    (log ++ [action]).count (.entered key generation) +
        next.calls.count ⟨key, generation, .scheduled⟩ =
      (log ++ [action]).count (.scheduled key generation) := by
  refine hmoves.count_calls ?_ ?_ (h.entered_or_scheduled key generation)
  · intro action
    cases action <;> simp [DedupAction.callAfter?]
  · intro action
    cases action <;> simp [DedupAction.callBefore?]

/-- A claim stays cached through every step but its release. -/
theorem cached_or_released_step (place : Nat) (key : RequestKey) (generation : UInt64)
    (hplace : (log ++ [action])[place]? = some (.claimed key generation)) :
    next.dedup.generationOf? key = some generation ∨
      Released (log ++ [action]) key generation place (log ++ [action]).length := by
  have hcached := hmoves.generationOf? key
  rcases getElem?_concat_eq_some_iff.mp hplace with hold | ⟨rfl, rfl⟩
  · rcases h.cached_or_released place key generation hold with hstill | hreleased
    · have hfirst := lt_length_of_getElem? hold
      cases hmoves with
      | claimed hfree =>
          refine .inl (hcached.trans ?_)
          dsimp only
          split
          · rename_i hsame
            rw [hsame, hfree] at hstill
            cases hstill
          · exact hstill
      | @fired index eviction hscheduled =>
          by_cases hmatch : key = eviction.key ∧ generation = eviction.generation
          · obtain ⟨rfl, rfl⟩ := hmatch
            exact .inr (released_of_last hfirst (.inl rfl))
          · refine .inl (hcached.trans ?_)
            dsimp only
            rw [if_neg (by simpa only [hstill, Option.some.injEq] using hmatch), hstill]
      | cleared => exact .inr (released_of_last hfirst (.inr rfl))
      | suppressed hduplicate => exact .inl hstill
      | scheduled hcall => exact .inl hstill
      | entered hcall => exact .inl hstill
      | settled hcall => exact .inl (hcached.trans hstill)
    · exact .inr ((hreleased.concat action).mono (by simp))
  · refine .inl (hcached.trans ?_)
    dsimp only
    rw [if_pos rfl]

/-- Whoever claims a key finds the earlier claims of the key released. -/
theorem released_step (first last : Nat) (key : RequestKey) (generation generation' : UInt64)
    (hlt : first < last) (hfirst : (log ++ [action])[first]? = some (.claimed key generation))
    (hlast : (log ++ [action])[last]? = some (.claimed key generation')) :
    Released (log ++ [action]) key generation first last := by
  rcases getElem?_concat_eq_some_iff.mp hfirst with hearlier | ⟨rfl, -⟩
  · rcases getElem?_concat_eq_some_iff.mp hlast with hlater | ⟨rfl, rfl⟩
    · exact (h.released first last key generation generation' hlt hearlier hlater).concat action
    · cases hmoves with
      | claimed hfree =>
          rcases h.cached_or_released first key generation hearlier with hcached | hreleased
          · rw [hfree] at hcached
            cases hcached
          · exact hreleased.concat _
  · -- Nothing stands behind the last action.
    have hbehind := lt_length_of_getElem? hlast
    rw [List.length_append, List.length_singleton] at hbehind
    omega

theorem step : Chronicle (log ++ [action]) next where
  claimed_of_call := h.claimed_of_call_step hmoves
  scheduled_of_call := h.scheduled_of_call_step hmoves
  scheduled_of_eviction := h.scheduled_of_eviction_step hmoves
  scheduled_or_claimed := h.scheduled_or_claimed_step hmoves
  entered_or_scheduled := h.entered_or_scheduled_step hmoves
  claim_first key generation := by
    refine (h.claim_first key generation).concat ?_
    rintro rfl
    exact h.claimed_of_call ⟨key, generation, .claimed⟩ (hmoves.mem_of_callBefore? rfl)
  schedule_first key generation := by
    refine (h.schedule_first key generation).concat ?_
    rintro rfl
    exact h.scheduled_of_call key generation (hmoves.mem_of_callBefore? rfl)
  schedule_before_eviction key generation := by
    refine (h.schedule_before_eviction key generation).concat ?_
    rintro rfl
    cases hmoves with
    | fired hscheduled => exact h.scheduled_of_eviction _ (List.mem_of_getElem? hscheduled)
  cached_or_released := h.cached_or_released_step hmoves
  released := h.released_step hmoves

end

theorem of_run {events : List DedupEvent} {system : DedupSystem}
    (hrun : DedupSystem.empty.run events = some system) :
    Chronicle (DedupSystem.empty.history events) system :=
  DedupSystem.run_induction Chronicle.step start hrun

end Chronicle

/-! ## A generation for each claim -/

/-- The counter counts the claims, and no two claims have the same generation. -/
structure Numbered (log : List DedupAction) (system : DedupSystem) : Prop where
  counter_eq : system.dedup.generation.toNat = claimCount log
  claim_lt : ∀ key generation, .claimed key generation ∈ log →
    generation < system.dedup.generation
  claim_inj : ∀ (first last : Nat) (key key' : RequestKey) (generation : UInt64),
    log[first]? = some (.claimed key generation) →
    log[last]? = some (.claimed key' generation) → first = last

namespace Numbered

theorem start : Numbered [] DedupSystem.empty := by
  constructor <;> simp [DedupSystem.empty, Deduplicator.empty, claimCount]

section

variable {log : List DedupAction} {system next : DedupSystem} {action : DedupAction}
  (h : Numbered log system) (hmoves : system.Moves action next)
include h hmoves

theorem counter_step (hcount : claimCount (log ++ [action]) < UInt64.size) :
    next.dedup.generation.toNat = claimCount (log ++ [action]) := by
  rw [claimCount_concat] at hcount ⊢
  rw [hmoves.generation, ← h.counter_eq]
  rw [← h.counter_eq] at hcount
  by_cases hclaim : action.isClaim
  · rw [if_pos hclaim] at hcount ⊢
    rw [if_pos hclaim, UInt64.toNat_add, UInt64.toNat_one, Nat.mod_eq_of_lt hcount]
  · rw [if_neg hclaim, if_neg hclaim, Nat.add_zero]

theorem claim_lt_step (hcount : claimCount (log ++ [action]) < UInt64.size) (key : RequestKey)
    (generation : UInt64) (hmem : .claimed key generation ∈ log ++ [action]) :
    generation < next.dedup.generation := by
  have hcounter := h.counter_step hmoves hcount
  rw [claimCount_concat] at hcounter
  rw [UInt64.lt_iff_toNat_lt, hcounter]
  rcases List.mem_append.mp hmem with hbefore | hlast
  · have hlt := h.claim_lt key generation hbefore
    rw [UInt64.lt_iff_toNat_lt, h.counter_eq] at hlt
    exact Nat.lt_of_lt_of_le hlt (Nat.le_add_right _ _)
  · rw [List.mem_singleton] at hlast
    subst hlast
    cases hmoves with
    | claimed hfree =>
        rw [h.counter_eq]
        exact Nat.lt_succ_self _

theorem claim_inj_step (first last : Nat) (key key' : RequestKey) (generation : UInt64)
    (hfirst : (log ++ [action])[first]? = some (.claimed key generation))
    (hlast : (log ++ [action])[last]? = some (.claimed key' generation)) : first = last := by
  -- A new generation is that of the counter, and all before it are below.
  have hnew : ∀ (place : Nat) (key key' : RequestKey), action = .claimed key' generation →
      log[place]? ≠ some (.claimed key generation) := by
    rintro place key key' rfl hplace
    cases hmoves with
    | claimed hfree =>
        exact UInt64.lt_irrefl _ (h.claim_lt key _ (List.mem_of_getElem? hplace))
  rcases getElem?_concat_eq_some_iff.mp hfirst with hbefore | ⟨rfl, hlatest⟩
  · rcases getElem?_concat_eq_some_iff.mp hlast with hbefore' | ⟨rfl, hlatest⟩
    · exact h.claim_inj first last key key' generation hbefore hbefore'
    · exact absurd hbefore (hnew first key key' hlatest)
  · rcases getElem?_concat_eq_some_iff.mp hlast with hbefore' | ⟨rfl, -⟩
    · exact absurd hbefore' (hnew last key' key hlatest)
    · rfl

theorem step (hcount : claimCount (log ++ [action]) < UInt64.size) :
    Numbered (log ++ [action]) next where
  counter_eq := h.counter_step hmoves hcount
  claim_lt := h.claim_lt_step hmoves hcount
  claim_inj := h.claim_inj_step hmoves

end

/-- No claim is made twice. -/
theorem count_claimed_le {log : List DedupAction} {system : DedupSystem}
    (h : Numbered log system) (key : RequestKey) (generation : UInt64) :
    log.count (.claimed key generation) ≤ 1 := by
  refine Nat.not_lt.mp fun htwice => ?_
  obtain ⟨first, last, hlt, hfirst, hlast⟩ := two_le_count_iff.mp htwice
  exact Nat.ne_of_lt hlt (h.claim_inj first last key key generation hfirst hlast)

end Numbered

/-- What every step keeps in a history that is in order and numbers its claims apart, a run with
fewer than 2⁶⁴ claims keeps. -/
theorem numbered_induction {P : List DedupAction → DedupSystem → Prop}
    (hstep : ∀ {log system action next}, Chronicle log system → Numbered log system →
      P log system → system.Moves action next → P (log ++ [action]) next)
    (hstart : P [] DedupSystem.empty) {events : List DedupEvent} {system : DedupSystem}
    (hrun : DedupSystem.empty.run events = some system)
    (hcount : claimCount (DedupSystem.empty.history events) < UInt64.size) :
    Numbered (DedupSystem.empty.history events) system ∧
      P (DedupSystem.empty.history events) system := by
  refine (DedupSystem.run_induction
    (P := fun log system => claimCount log < UInt64.size →
      Chronicle log system ∧ Numbered log system ∧ P log system)
    ?_ (fun _ => ⟨Chronicle.start, Numbered.start, hstart⟩) hrun hcount).2
  intro log system action next h hmoves hcount
  have hbefore : claimCount log < UInt64.size := by
    rw [claimCount_concat] at hcount
    omega
  obtain ⟨hchronicle, hnumbered, hkept⟩ := h hbefore
  exact ⟨hchronicle.step hmoves, hnumbered.step hmoves hcount,
    hstep hchronicle hnumbered hkept hmoves⟩

/-- A run with fewer than 2⁶⁴ claims numbers them apart. -/
theorem Numbered.of_run {events : List DedupEvent} {system : DedupSystem}
    (hrun : DedupSystem.empty.run events = some system)
    (hcount : claimCount (DedupSystem.empty.history events) < UInt64.size) :
    Numbered (DedupSystem.empty.history events) system :=
  (numbered_induction (P := fun _ _ => True) (fun _ _ h _ => h) trivial hrun hcount).1

/-! ## Runs of the handler -/

/-- A run of the handler: where in a history its request claimed the key, where its eviction was
scheduled, and where the handler was entered. -/
structure HandlerRun (log : List DedupAction) (key : RequestKey) (generation : UInt64)
    (claim scheduling entry : Nat) : Prop where
  claimed : log[claim]? = some (.claimed key generation)
  scheduled : log[scheduling]? = some (.scheduled key generation)
  entered : log[entry]? = some (.entered key generation)
  claim_lt : claim < scheduling
  scheduling_lt : scheduling < entry

/-- No eviction runs earlier than the timeout after it was scheduled, by the times at which the
actions of a history happen. -/
def KeepsDelay (log : List DedupAction) (timeout : Nat) (times : Nat → Nat) : Prop :=
  ∀ (scheduling place : Nat) (key : RequestKey) (generation : UInt64), scheduling < place →
    log[scheduling]? = some (.scheduled key generation) →
    log[place]? = some (.fired key generation) →
    times scheduling + timeout ≤ times place

/-- The handler runs for claims only, and not before their evictions are scheduled. -/
theorem Chronicle.handlerRun {log : List DedupAction} {system : DedupSystem}
    (h : Chronicle log system) {key : RequestKey} {generation : UInt64} {entry : Nat}
    (hentry : log[entry]? = some (.entered key generation)) :
    ∃ claim scheduling, HandlerRun log key generation claim scheduling entry := by
  obtain ⟨scheduling, hbefore, hscheduled⟩ := h.schedule_first key generation entry hentry
  obtain ⟨claim, hlt, hclaim⟩ := h.claim_first key generation scheduling hscheduled
  exact ⟨claim, scheduling, hclaim, hscheduled, hentry, hlt, hbefore⟩

section

variable {log : List DedupAction} {system : DedupSystem} (hchronicle : Chronicle log system)
  (hnumbered : Numbered log system)
include hchronicle hnumbered

/-- The eviction of a claim is scheduled once. -/
theorem count_scheduled_le (key : RequestKey) (generation : UInt64) :
    log.count (.scheduled key generation) ≤ 1 := by
  have hcounts := hchronicle.scheduled_or_claimed key generation
  have hclaims := hnumbered.count_claimed_le key generation
  omega

/-- The handler runs once for a claim. -/
theorem count_entered_le (key : RequestKey) (generation : UInt64) :
    log.count (.entered key generation) ≤ 1 := by
  have hcounts := hchronicle.entered_or_scheduled key generation
  have honce := count_scheduled_le hchronicle hnumbered key generation
  omega

/-- Two runs of the handler for one key have two claims, and the earlier one is released between
them. -/
theorem released_between {key : RequestKey} {generation generation' : UInt64}
    {claim claim' scheduling scheduling' entry entry' : Nat}
    (h : HandlerRun log key generation claim scheduling entry)
    (h' : HandlerRun log key generation' claim' scheduling' entry') (hne : entry ≠ entry') :
    claim < claim' ∧ Released log key generation claim claim' ∨
      claim' < claim ∧ Released log key generation' claim' claim := by
  rcases Nat.lt_trichotomy claim claim' with hlt | rfl | hgt
  · exact .inl ⟨hlt, hchronicle.released claim claim' key generation generation' hlt h.claimed
      h'.claimed⟩
  · have hsame : generation = generation' := by simpa using h.claimed.symm.trans h'.claimed
    subst hsame
    have honce := count_entered_le hchronicle hnumbered key generation
    exact absurd (place_eq_of_count_le honce h.entered h'.entered) hne
  · exact .inr ⟨hgt, hchronicle.released claim' claim key generation' generation hgt h'.claimed
      h.claimed⟩

/-- Where the timer keeps its delay, a key is claimed again the timeout after the earlier claim
scheduled its eviction, unless everything is forgotten between the claims. -/
theorem timeout_le_claim {timeout : Nat} {times : Nat → Nat} (htimes : Monotone times)
    (htimer : KeepsDelay log timeout times) {key : RequestKey}
    {generation generation' : UInt64} {claim claim' scheduling scheduling' entry entry' : Nat}
    (h : HandlerRun log key generation claim scheduling entry)
    (h' : HandlerRun log key generation' claim' scheduling' entry') (hlt : claim < claim')
    (hkept : ∀ place, claim < place → place < claim' → log[place]? ≠ some .cleared) :
    times scheduling + timeout ≤ times claim' := by
  obtain ⟨place, hfirst, hlast, hfired | hcleared⟩ :=
    hchronicle.released claim claim' key generation generation' hlt h.claimed h'.claimed
  · -- The eviction that runs between the claims is the one that the earlier claim scheduled.
    obtain ⟨before, hbefore, hscheduled⟩ :=
      hchronicle.schedule_before_eviction key generation place hfired
    have honce := count_scheduled_le hchronicle hnumbered key generation
    have hsame : scheduling = before := place_eq_of_count_le honce h.scheduled hscheduled
    subst hsame
    exact (htimer scheduling place key generation hbefore h.scheduled hfired).trans
      (htimes hlast.le)
  · exact absurd hcleared (hkept place hfirst hlast)

end

/-! ## Duplicates -/

/-- A request whose key is cached gets no response and changes nothing, in the midst of other
requests or on its own, whatever the handler would have come to. -/
theorem DedupSystem.suppressed_of_cached {system : DedupSystem} {key : RequestKey}
    (h : system.dedup.entries.contains key) :
    system.action? (.arrive key) = some (.suppressed key) ∧
      system.step (.arrive key) = some system ∧
      ∀ handler, system.dedup.handle key handler = (.ok none, system.dedup) := by
  have hclaim : system.dedup.claim key = none := by rw [Deduplicator.claim, if_pos h]
  refine ⟨?_, ?_, fun handler => ?_⟩
  · simp only [action?, hclaim]
  · simp only [step, hclaim]
  · simp only [Deduplicator.handle, Deduplicator.receive, hclaim]

/-! ## Windows -/

/-- Whenever the handler runs twice for a key, the eviction of the earlier claim has run between the
two claims, or everything was forgotten; a claim is known by its generation. A request whose key is
cached changes nothing and gets no response. And where the evictions keep their delay and nothing is
forgotten between two claims of a key, the claims are at least the timeout apart, and the handler
runs for the later one no sooner than the timeout after the earlier one scheduled its eviction. So
two runs are the timeout apart if the earlier one begins as soon as its eviction is scheduled. -/
theorem handler_runs_once_per_window (events : List DedupEvent) (system : DedupSystem)
    (hrun : DedupSystem.empty.run events = some system)
    (hclaims : claimCount (DedupSystem.empty.history events) < UInt64.size) :
    (∀ (key : RequestKey) (generation generation' : UInt64) (entry entry' : Nat), entry ≠ entry' →
      (DedupSystem.empty.history events)[entry]? = some (.entered key generation) →
      (DedupSystem.empty.history events)[entry']? = some (.entered key generation') →
      ∃ claim claim' scheduling scheduling',
        HandlerRun (DedupSystem.empty.history events) key generation claim scheduling entry ∧
        HandlerRun (DedupSystem.empty.history events) key generation' claim' scheduling' entry' ∧
        (claim < claim' ∧ Released (DedupSystem.empty.history events) key generation claim claim' ∨
          claim' < claim ∧
            Released (DedupSystem.empty.history events) key generation' claim' claim)) ∧
    (∀ (first last : Nat) (key key' : RequestKey) (generation : UInt64),
      (DedupSystem.empty.history events)[first]? = some (.claimed key generation) →
      (DedupSystem.empty.history events)[last]? = some (.claimed key' generation) → first = last) ∧
    (∀ key, system.dedup.entries.contains key →
      system.action? (.arrive key) = some (.suppressed key) ∧
        system.step (.arrive key) = some system ∧
        ∀ handler, system.dedup.handle key handler = (.ok none, system.dedup)) ∧
    (∀ (timeout : Nat) (times : Nat → Nat), Monotone times →
      KeepsDelay (DedupSystem.empty.history events) timeout times →
      ∀ (key : RequestKey) (generation generation' : UInt64)
        (claim claim' scheduling scheduling' entry entry' : Nat),
        HandlerRun (DedupSystem.empty.history events) key generation claim scheduling entry →
        HandlerRun (DedupSystem.empty.history events) key generation' claim' scheduling' entry' →
        claim < claim' →
        (∀ place, claim < place → place < claim' →
          (DedupSystem.empty.history events)[place]? ≠ some .cleared) →
        times claim + timeout ≤ times claim' ∧
        times scheduling + timeout ≤ times entry' ∧
        (times entry = times scheduling → times entry + timeout ≤ times entry')) := by
  have hchronicle := Chronicle.of_run hrun
  have hnumbered := Numbered.of_run hrun hclaims
  refine ⟨?_, hnumbered.claim_inj, fun key hcached => DedupSystem.suppressed_of_cached hcached, ?_⟩
  · intro key generation generation' entry entry' hne hentry hentry'
    obtain ⟨claim, scheduling, hfirst⟩ := hchronicle.handlerRun hentry
    obtain ⟨claim', scheduling', hlast⟩ := hchronicle.handlerRun hentry'
    exact ⟨claim, claim', scheduling, scheduling', hfirst, hlast,
      released_between hchronicle hnumbered hfirst hlast hne⟩
  · intro timeout times htimes htimer key generation generation' claim claim' scheduling scheduling'
      entry entry' hfirst hlast hlt hkept
    have hclaim : times scheduling + timeout ≤ times claim' :=
      timeout_le_claim hchronicle hnumbered htimes htimer hfirst hlast hlt hkept
    have hscheduling : times claim ≤ times scheduling := htimes hfirst.claim_lt.le
    have hentry : times claim' ≤ times entry' :=
      htimes (hlast.claim_lt.trans hlast.scheduling_lt).le
    exact ⟨by omega, by omega, fun hatOnce => by omega⟩

/-! ## A sample run

A request comes twice before its eviction runs and once after that. -/

namespace DedupSystem.Sample

def key : RequestKey := ⟨⟨.v4 ⟨⟨[192, 168, 1, 10], rfl⟩⟩, 40000⟩, 42⟩

def events : List DedupEvent :=
  [.arrive key, .schedule 0, .enter 0, .arrive key, .finish 0 .responded, .fire 0, .arrive key,
    .schedule 0, .enter 0]

/-- What the events come to. -/
def log : List DedupAction :=
  [.claimed key 0, .scheduled key 0, .entered key 0, .suppressed key, .settled key 0 .responded,
    .fired key 0, .claimed key 1, .scheduled key 1, .entered key 1]

/-- The request is at work for the second time. -/
def system : DedupSystem :=
  ⟨⟨⟨[(key, ⟨1, .pending⟩)]⟩, 2, [⟨key, 1⟩]⟩, [⟨key, 1, .running⟩]⟩

theorem run_events : empty.run events = some system := by decide +kernel

theorem history_events : empty.history events = log := by decide +kernel

/-- Thirty seconds pass before the action at a place, and no time otherwise. -/
def timesAt (turn place : Nat) : Nat := if place < turn then 0 else 30000

theorem timesAt_monotone (turn : Nat) : Monotone (timesAt turn) := by
  intro first last hle
  unfold timesAt
  split <;> split <;> omega

/-- A timer keeps its delay whose only eviction runs when the thirty seconds have passed. -/
theorem keepsDelay_timesAt {log : List DedupAction} {turn : Nat}
    (hfired : ∀ (place : Nat) (key : RequestKey) (generation : UInt64),
      log[place]? = some (.fired key generation) → place = turn) :
    KeepsDelay log 30000 (timesAt turn) := by
  intro scheduling place key generation hlt _ hplace
  have hturn := hfired place key generation hplace
  subst hturn
  simp [timesAt, hlt]

end DedupSystem.Sample

open DedupSystem.Sample in
/-- The second run in the sample, thirty seconds after the first one. -/
theorem sample_runs_once_per_window :
    DedupSystem.empty.run events = some system ∧
      claimCount (DedupSystem.empty.history events) < UInt64.size ∧
      (∃ claim claim' scheduling scheduling', HandlerRun log key 0 claim scheduling 2 ∧
        HandlerRun log key 1 claim' scheduling' 8 ∧
        (claim < claim' ∧ Released log key 0 claim claim' ∨
          claim' < claim ∧ Released log key 1 claim' claim)) ∧
      system.step (.arrive key) = some system ∧
      timesAt 5 2 + 30000 ≤ timesAt 5 8 := by
  have hclaims : claimCount (DedupSystem.empty.history events) < UInt64.size := by
    rw [history_events]
    decide
  obtain ⟨htwice, -, hduplicate, htimes⟩ :=
    handler_runs_once_per_window events system run_events hclaims
  rw [history_events] at htwice htimes
  have hdelay : KeepsDelay log 30000 (timesAt 5) := by
    refine keepsDelay_timesAt fun place key' generation hfired => ?_
    rcases place with _ | _ | _ | _ | _ | _ | _ | _ | _ | place <;> simp [log] at hfired ⊢
  refine ⟨run_events, hclaims, htwice key 0 1 2 8 (by decide) rfl rfl, ?_, ?_⟩
  · exact (hduplicate key (by decide)).2.1
  · refine (htimes 30000 (timesAt 5) (timesAt_monotone 5) hdelay key 0 1 0 6 1 7 2 8
      ⟨rfl, rfl, rfl, by decide, by decide⟩ ⟨rfl, rfl, rfl, by decide, by decide⟩ (by decide)
      ?_).2.2 rfl
    intro place hfirst hlast
    rcases place with _ | _ | _ | _ | _ | _ | place <;> simp [log]
    omega

/-! ## Runs that are not apart

The window opens with the claim and its delay with the scheduling of the eviction. The
handler is entered after both, so what happens before that is not seen between two runs.
-/

/-- That two runs of the handler for a key begin at least the timeout apart, if nothing is forgotten
between the one beginning and the other. -/
def EntriesApart (log : List DedupAction) (timeout : Nat) (times : Nat → Nat) : Prop :=
  ∀ (first last : Nat) (key : RequestKey) (generation generation' : UInt64), first < last →
    log[first]? = some (.entered key generation) → log[last]? = some (.entered key generation') →
    (∀ place, first < place → place < last → log[place]? ≠ some .cleared) →
    times first + timeout ≤ times last

/-- That two runs of the handler for a key begin at least the timeout apart, if nothing is forgotten
between the end of the one and the beginning of the other. -/
def RunsApart (log : List DedupAction) (timeout : Nat) (times : Nat → Nat) : Prop :=
  ∀ (first ended last : Nat) (key : RequestKey) (generation generation' : UInt64)
    (outcome : Outcome), first < ended → ended < last →
    log[first]? = some (.entered key generation) →
    log[ended]? = some (.settled key generation outcome) →
    log[last]? = some (.entered key generation') →
    (∀ place, ended < place → place < last → log[place]? ≠ some .cleared) →
    times first + timeout ≤ times last

/-- A run with evictions that keep their delay. -/
structure KeptRun (events : List DedupEvent) (timeout : Nat) (times : Nat → Nat) : Prop where
  run : ∃ system, DedupSystem.empty.run events = some system
  claims : claimCount (DedupSystem.empty.history events) < UInt64.size
  times_mono : Monotone times
  delay : KeepsDelay (DedupSystem.empty.history events) timeout times

namespace DedupSystem.Sample

/-- Everything is forgotten before the first run begins. -/
def forgottenEvents : List DedupEvent :=
  [.arrive key, .clear, .schedule 0, .enter 0, .arrive key, .schedule 1, .enter 1]

def forgottenLog : List DedupAction :=
  [.claimed key 0, .cleared, .scheduled key 0, .entered key 0, .claimed key 1, .scheduled key 1,
    .entered key 1]

/-- The first call is held up for thirty seconds before it enters the handler. -/
def heldUpEvents : List DedupEvent :=
  [.arrive key, .schedule 0, .fire 0, .enter 0, .arrive key, .schedule 1, .enter 1]

def heldUpLog : List DedupAction :=
  [.claimed key 0, .scheduled key 0, .fired key 0, .entered key 0, .claimed key 1, .scheduled key 1,
    .entered key 1]

/-- Everything is forgotten while the handler is at work for the first time. -/
def atWorkEvents : List DedupEvent :=
  [.arrive key, .schedule 0, .enter 0, .clear, .finish 0 .noResponse, .arrive key, .schedule 0,
    .enter 0]

def atWorkLog : List DedupAction :=
  [.claimed key 0, .scheduled key 0, .entered key 0, .cleared, .settled key 0 .noResponse,
    .claimed key 1, .scheduled key 1, .entered key 1]

theorem history_forgotten : empty.history forgottenEvents = forgottenLog := by decide +kernel

theorem history_heldUp : empty.history heldUpEvents = heldUpLog := by decide +kernel

theorem history_atWork : empty.history atWorkEvents = atWorkLog := by decide +kernel

/-- Where no eviction runs, the delay is kept at any times. -/
theorem keepsDelay_of_not_mem {log : List DedupAction} {timeout : Nat} {times : Nat → Nat}
    (h : ∀ key generation, .fired key generation ∉ log) : KeepsDelay log timeout times :=
  fun _ _ key generation _ _ hfired => absurd (List.mem_of_getElem? hfired) (h key generation)

theorem kept_forgotten : KeptRun forgottenEvents 30000 (fun _ => 0) where
  run := Option.isSome_iff_exists.mp (by decide +kernel)
  claims := by decide +kernel
  times_mono := monotone_const
  delay := keepsDelay_of_not_mem (by simp [history_forgotten, forgottenLog])

theorem kept_heldUp : KeptRun heldUpEvents 30000 (timesAt 2) where
  run := Option.isSome_iff_exists.mp (by decide +kernel)
  claims := by decide +kernel
  times_mono := timesAt_monotone 2
  delay := by
    rw [history_heldUp]
    refine keepsDelay_timesAt fun place key' generation hfired => ?_
    rcases place with _ | _ | _ | _ | _ | _ | _ | place <;> simp [heldUpLog] at hfired ⊢

theorem kept_atWork : KeptRun atWorkEvents 30000 (fun _ => 0) where
  run := Option.isSome_iff_exists.mp (by decide +kernel)
  claims := by decide +kernel
  times_mono := monotone_const
  delay := keepsDelay_of_not_mem (by simp [history_atWork, atWorkLog])

end DedupSystem.Sample

open DedupSystem.Sample in
/-- Two runs for one key at the same instant with nothing forgotten between them: everything was
forgotten before the first one began, the first one began late, or everything was forgotten before
the first one ended. -/
theorem sample_runs_not_apart :
    (KeptRun forgottenEvents 30000 (fun _ => 0) ∧
      ¬ EntriesApart (DedupSystem.empty.history forgottenEvents) 30000 (fun _ => 0)) ∧
    (KeptRun heldUpEvents 30000 (timesAt 2) ∧
      ¬ EntriesApart (DedupSystem.empty.history heldUpEvents) 30000 (timesAt 2)) ∧
    (KeptRun atWorkEvents 30000 (fun _ => 0) ∧
      ¬ RunsApart (DedupSystem.empty.history atWorkEvents) 30000 (fun _ => 0)) := by
  refine ⟨⟨kept_forgotten, ?forgotten⟩, ⟨kept_heldUp, ?heldUp⟩, kept_atWork, ?atWork⟩
  case forgotten =>
    rw [history_forgotten]
    intro hapart
    have htimeout := hapart 3 6 key 0 1 (by decide) rfl rfl ?between
    case between =>
      intro place hfirst hlast
      obtain rfl | rfl : place = 4 ∨ place = 5 := by omega
      all_goals simp [forgottenLog]
    cases htimeout
  case heldUp =>
    rw [history_heldUp]
    intro hapart
    have htimeout := hapart 3 6 key 0 1 (by decide) rfl rfl ?between
    case between =>
      intro place hfirst hlast
      obtain rfl | rfl : place = 4 ∨ place = 5 := by omega
      all_goals simp [heldUpLog]
    simp [timesAt] at htimeout
  case atWork =>
    rw [history_atWork]
    intro hapart
    have htimeout := hapart 2 4 7 key 0 1 .noResponse (by decide) (by decide) rfl rfl rfl ?between
    case between =>
      intro place hended hlast
      obtain rfl | rfl : place = 5 ∨ place = 6 := by omega
      all_goals simp [atWorkLog]
    cases htimeout

end Radius
