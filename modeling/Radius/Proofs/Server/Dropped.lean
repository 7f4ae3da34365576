-- SUMMARY: A datagram that is not received leaves no trace: a run goes on as if it had never come in.
import Radius.Proofs.Server.Reply

/-!
# Dropped datagrams

A datagram from a stranger, or one that does not decode under the secret of its sender, is
refused before anything is claimed for it. The state stays as it is, so a run without these
datagrams goes through the same states and gives the same verdicts on all the others. What the
deduplicator goes through is a run of its own, in which only received datagrams arrive. This
holds whatever the handler comes to: `stepAs` finishes a call with any outcome.
-/

namespace Radius

/-! ## Datagrams that are not received -/

namespace Server

/-- The datagram comes from an address without a secret, or does not decode under the secret. -/
def drops (hash : Hash) (server : Server) (remote : Endpoint) (datagram : Bytes) : Bool :=
  match server.secretOf? remote.ip with
  | none        => true
  | some secret => !(Message.ofRequestDatagram hash datagram secret).isOk

section

variable {hash : Hash} {server : Server} {remote : Endpoint} {datagram : Bytes}

theorem drops_eq_false_iff :
    server.drops hash remote datagram = false ↔
      ∃ received, server.receive hash remote datagram = .ok received := by
  unfold drops
  constructor
  · intro h
    split at h
    · cases h
    rename_i secret hsecret
    cases hrequest : Message.ofRequestDatagram hash datagram secret with
    | error fault =>
        rw [hrequest] at h
        cases h
    | ok request =>
        exact ⟨⟨remote, secret, request⟩, receive_eq_ok_iff.mpr ⟨hsecret, hrequest, rfl⟩⟩
  · rintro ⟨received, hreceived⟩
    obtain ⟨hsecret, hrequest, -⟩ := receive_eq_ok_iff.mp hreceived
    simp only [hsecret, hrequest]
    rfl

/-- A dropped datagram fails. -/
theorem exists_fault_of_drops (h : server.drops hash remote datagram) :
    ∃ fault, server.receive hash remote datagram = .error fault := by
  cases hreceived : server.receive hash remote datagram with
  | error fault => exact ⟨fault, rfl⟩
  | ok received =>
      rw [drops_eq_false_iff.mpr ⟨received, hreceived⟩] at h
      cases h

end

end Server

/-- Whether an event is anything but a dropped datagram coming in. -/
def ServerEvent.isKept (hash : Hash) (server : Server) : ServerEvent → Bool
  | .datagram remote bytes => !server.drops hash remote bytes
  | _                      => true

/-! ## Runs behind any handler -/

namespace ServerState

/-- Carry out an event; if it finishes a call, its handler has come to this. -/
def stepAs (hash : Hash) (server : Server) (state : ServerState) (handled : Handled) :
    ServerEvent → Option (ServerState × Option Verdict)
  | .finish index =>
      match state.calls[index]? with
      | some ⟨received, generation, .running⟩ =>
          some (⟨state.dedup.settle received.key generation (Outcome.ofHandled handled),
            state.calls.eraseIdx index⟩, some (Server.respond hash received handled))
      | _ => none
  | event => state.step hash server event

/-- Carry out events by a step function, with what each of them gives. -/
def runBy {ε : Type} (step : ServerState → ε → Option (ServerState × Option Verdict))
    (state : ServerState) : List ε → Option (ServerState × List (Option Verdict))
  | [] => some (state, [])
  | event :: later =>
      match step state event with
      | none => none
      | some (state, verdict) =>
          (runBy step state later).map (fun (state, verdicts) => (state, verdict :: verdicts))

/-- Carry out events, each with what the handler has come to if the event finishes a call. -/
def runAs (hash : Hash) (server : Server) (state : ServerState) :
    List (ServerEvent × Handled) → Option (ServerState × List (Option Verdict)) :=
  runBy (fun state entry => state.stepAs hash server entry.2 entry.1) state

section

variable {hash : Hash} {server : Server} {state : ServerState}

theorem run_eq_runBy (events : List ServerEvent) :
    state.run hash server events = runBy (fun state => state.step hash server) state events := by
  induction events generalizing state with
  | nil => rfl
  | cons event events ih =>
      cases hstep : state.step hash server event with
      | none => simp only [run, runBy, hstep]
      | some result => simp only [run, runBy, hstep, ih]

/-- A step of the server is one behind some handler. -/
theorem exists_stepAs (event : ServerEvent) :
    ∃ handled, state.stepAs hash server handled event = state.step hash server event := by
  cases event with
  | finish index =>
      cases hcall : state.calls[index]? with
      | none => exact ⟨.ok none, by simp only [stepAs, step, hcall]⟩
      | some call =>
          refine ⟨(server.handle hash call.received).1, ?_⟩
          obtain ⟨received, generation, stage⟩ := call
          cases stage with
          | claimed => simp only [stepAs, step, hcall]
          | scheduled => simp only [stepAs, step, hcall]
          | running => simp only [stepAs, step, hcall]
  | _ => exact ⟨.ok none, rfl⟩

/-- A run of the server is one behind some handler. -/
theorem exists_runAs (events : List ServerEvent) :
    ∃ entries : List (ServerEvent × Handled), entries.map (·.1) = events ∧
      state.runAs hash server entries = state.run hash server events := by
  induction events generalizing state with
  | nil => exact ⟨[], rfl, rfl⟩
  | cons event events ih =>
      obtain ⟨handled, hstep⟩ : ∃ handled, state.stepAs hash server handled event =
          state.step hash server event := exists_stepAs event
      cases hnext : state.step hash server event with
      | none =>
          -- The run ends here, so what the handler comes to later does not matter.
          refine ⟨(event, handled) :: events.map (·, .ok none), by simp [Function.comp_def], ?_⟩
          simp only [runAs, runBy, run, hstep, hnext]
      | some result =>
          obtain ⟨next, verdict⟩ := result
          obtain ⟨entries, hentries, hrun⟩ := @ih next
          refine ⟨(event, handled) :: entries, by simp [hentries], ?_⟩
          rw [runAs] at hrun ⊢
          simp only [runBy, run, hstep, hnext, hrun]

end

/-! ## Runs without some events -/

/-- The verdicts at the events that are kept. -/
def keptVerdicts {ε : Type} (keeps : ε → Bool) (events : List ε) (verdicts : List (Option Verdict)) :
    List (Option Verdict) :=
  ((events.zip verdicts).filter (fun entry => keeps entry.1)).map (·.2)

/-- Events that change nothing can be left out, and what the others give stays the same. -/
theorem runBy_filter {ε : Type} {step : ServerState → ε → Option (ServerState × Option Verdict)}
    {keeps : ε → Bool}
    (hidle : ∀ state event, keeps event = false → ∃ verdict, step state event = some (state, verdict))
    (state : ServerState) (events : List ε) :
    runBy step state (events.filter keeps) =
      (runBy step state events).map (fun (later, verdicts) =>
        (later, keptVerdicts keeps events verdicts)) := by
  induction events generalizing state with
  | nil => rfl
  | cons event events ih =>
      cases hkeeps : keeps event with
      | false =>
          obtain ⟨verdict, hstep⟩ := hidle state event hkeeps
          rw [List.filter_cons_of_neg (by simp [hkeeps]), ih, runBy, hstep, Option.map_map]
          simp [keptVerdicts, hkeeps, Function.comp_def]
      | true =>
          rw [List.filter_cons_of_pos hkeeps, runBy, runBy]
          cases hstep : step state event with
          | none => rfl
          | some result => simp [ih, keptVerdicts, hkeeps, Function.comp_def]

section

variable {hash : Hash} {server : Server} {state : ServerState}

/-- A datagram that is not received leaves the state as it is. -/
theorem step_of_error {remote : Endpoint} {datagram : Bytes} {fault : ServerError}
    (h : server.receive hash remote datagram = .error fault) :
    state.step hash server (.datagram remote datagram) = some (state, some (.failed fault)) := by
  simp only [step, arrive, h]

theorem step_of_not_isKept {event : ServerEvent} (h : event.isKept hash server = false) :
    ∃ verdict, state.step hash server event = some (state, verdict) := by
  cases event with
  | datagram remote datagram =>
      have hdrops : server.drops hash remote datagram := by simpa [ServerEvent.isKept] using h
      obtain ⟨fault, hfault⟩ := Server.exists_fault_of_drops hdrops
      exact ⟨_, step_of_error hfault⟩
  | _ => cases h

/-- What the handler comes to makes no difference to it. -/
theorem stepAs_of_not_isKept {event : ServerEvent} (handled : Handled)
    (h : event.isKept hash server = false) :
    state.stepAs hash server handled event = state.step hash server event := by
  cases event with
  | finish index => cases h
  | _ => rfl

end

/-! ## What the deduplicator goes through -/

/-- The deduplicator of a server, with the calls that are under way. -/
def system (state : ServerState) : DedupSystem where
  dedup := state.dedup
  calls := state.calls.map (fun call => ⟨call.received.key, call.generation, call.stage⟩)

/-- The event that the deduplicator sees; none if a datagram is not received. -/
def dedupEvent? (hash : Hash) (server : Server) : ServerEvent × Handled → Option DedupEvent
  | (.datagram remote datagram, _) =>
      (server.receive hash remote datagram).toOption.map (fun received => .arrive received.key)
  | (.schedule index, _)     => some (.schedule index)
  | (.enter index, _)        => some (.enter index)
  | (.finish index, handled) => some (.finish index (Outcome.ofHandled handled))
  | (.fire index, _)         => some (.fire index)
  | (.clear, _)              => some .clear

section

variable {hash : Hash} {server : Server} {state later : ServerState}

theorem system_stepAs {entry : ServerEvent × Handled} {verdict : Option Verdict}
    (h : state.stepAs hash server entry.2 entry.1 = some (later, verdict)) :
    state.system.run (dedupEvent? hash server entry).toList = some later.system := by
  obtain ⟨event, handled⟩ := entry
  cases event with
  | datagram remote datagram =>
      simp only [stepAs, step, arrive, Option.some.injEq] at h
      cases hreceived : server.receive hash remote datagram with
      | error fault =>
          rw [hreceived] at h
          cases h
          simp [dedupEvent?, hreceived, DedupSystem.run, Except.toOption]
      | ok received =>
          rw [hreceived] at h
          cases hclaim : state.dedup.claim received.key with
          | none =>
              simp only [hclaim] at h
              cases h
              simp [dedupEvent?, hreceived, DedupSystem.run, Except.toOption, DedupSystem.step,
                system, hclaim]
          | some claimed =>
              simp only [hclaim] at h
              cases h
              simp [dedupEvent?, hreceived, DedupSystem.run, Except.toOption, DedupSystem.step,
                system, hclaim]
  | schedule index =>
      simp only [stepAs, step] at h
      split at h
      · rename_i received generation hcall
        cases h
        simp [dedupEvent?, DedupSystem.run, DedupSystem.step, system, hcall, List.map_set]
      · cases h
  | enter index =>
      simp only [stepAs, step] at h
      split at h
      · rename_i received generation hcall
        cases h
        simp [dedupEvent?, DedupSystem.run, DedupSystem.step, system, hcall, List.map_set]
      · cases h
  | finish index =>
      simp only [stepAs] at h
      split at h
      · rename_i received generation hcall
        cases h
        simp [dedupEvent?, DedupSystem.run, DedupSystem.step, system, hcall, List.eraseIdx_map]
      · cases h
  | fire index =>
      obtain ⟨dedup, hfired, heq⟩ := Option.map_eq_some_iff.mp h
      cases heq
      simp [dedupEvent?, DedupSystem.run, DedupSystem.step, system, hfired]
  | clear =>
      cases h
      rfl

/-- The deduplicator goes through the claims of the received datagrams and nothing more. -/
theorem system_runAs {entries : List (ServerEvent × Handled)} {verdicts : List (Option Verdict)}
    (h : state.runAs hash server entries = some (later, verdicts)) :
    state.system.run (entries.filterMap (dedupEvent? hash server)) = some later.system := by
  induction entries generalizing state verdicts with
  | nil =>
      cases h
      rfl
  | cons entry entries ih =>
      unfold runAs runBy at h
      split at h
      · cases h
      rename_i next verdict hstep
      obtain ⟨⟨final, verdicts'⟩, hrun, heq⟩ := Option.map_eq_some_iff.mp h
      cases heq
      have hevents : (entry :: entries).filterMap (dedupEvent? hash server) =
          (dedupEvent? hash server entry).toList ++
            entries.filterMap (dedupEvent? hash server) := by
        rw [List.filterMap_cons]
        cases dedupEvent? hash server entry with
        | none => rfl
        | some event => rfl
      rw [hevents, DedupSystem.run_append, system_stepAs hstep]
      exact ih hrun

theorem mem_of_dedupEvent? {entry : ServerEvent × Handled} {key : RequestKey}
    (h : dedupEvent? hash server entry = some (.arrive key)) :
    ∃ remote datagram received, entry.1 = .datagram remote datagram ∧
      server.receive hash remote datagram = .ok received ∧ received.key = key := by
  obtain ⟨event, handled⟩ := entry
  cases event with
  | datagram remote datagram =>
      obtain ⟨received, hreceived, heq⟩ := Option.map_eq_some_iff.mp h
      cases heq
      refine ⟨remote, datagram, received, rfl, ?_, rfl⟩
      cases hresult : server.receive hash remote datagram with
      | error fault =>
          rw [hresult] at hreceived
          cases hreceived
      | ok received' =>
          rw [hresult] at hreceived
          cases hreceived
          rfl
  | _ => cases h

/-- Whose request is cached after a run, a datagram that holds it was received in the run. -/
theorem exists_received_of_cached {entries : List (ServerEvent × Handled)}
    {verdicts : List (Option Verdict)} {key : RequestKey}
    (hrun : empty.runAs hash server entries = some (later, verdicts))
    (hcached : later.dedup.generationOf? key ≠ none) :
    ∃ remote datagram received, .datagram remote datagram ∈ entries.map (·.1) ∧
      server.receive hash remote datagram = .ok received ∧ received.key = key := by
  obtain ⟨generation, hgeneration⟩ := Option.ne_none_iff_exists'.mp hcached
  rcases DedupSystem.mem_or_cached_of_run (system_runAs hrun) hgeneration with hmem | hstart
  · obtain ⟨entry, hentry, hevent⟩ := List.mem_filterMap.mp hmem
    obtain ⟨remote, datagram, received, heq, hreceived⟩ := mem_of_dedupEvent? hevent
    exact ⟨remote, datagram, received, List.mem_map.mpr ⟨entry, hentry, heq⟩, hreceived⟩
  · cases hstart

/-- A received datagram is let in while no request with its key is cached. -/
theorem step_of_received {remote : Endpoint} {datagram : Bytes} {received : Received}
    (hreceived : server.receive hash remote datagram = .ok received)
    (hfree : state.dedup.generationOf? received.key = none) :
    ∃ dedup, state.step hash server (.datagram remote datagram) =
      some (⟨dedup, state.calls ++ [⟨received, state.dedup.generation, .claimed⟩]⟩, none) := by
  obtain ⟨generation, dedup, hclaimed⟩ := Deduplicator.exists_claim hfree
  obtain ⟨-, rfl, -⟩ := Deduplicator.claim_eq_some hclaimed
  exact ⟨dedup, by simp only [step, arrive, hreceived, hclaimed]⟩

end

end ServerState

/-- A dropped datagram is served without a reply, without the handler and without a change to the
deduplicator, and in a run it changes nothing at all. A run without the dropped datagrams comes to
the same state with the same verdicts on everything else, and so does each of its beginnings. The
same is true behind any handler, and there a datagram that decodes is let in unless one that came
before from the same address decodes as well and has the same identifier. -/
theorem dropped_leave_no_trace (hash : Hash) (server : Server) :
    (∀ remote datagram, server.drops hash remote datagram → ∃ fault,
      (∀ clock, server.serve hash clock remote datagram = (.failed fault, [], clock)) ∧
      ∀ state : ServerState, state.step hash server (.datagram remote datagram) =
        some (state, some (.failed fault))) ∧
    (∀ (state : ServerState) (events : List ServerEvent),
      state.run hash server (events.filter (·.isKept hash server)) =
        (state.run hash server events).map (fun (later, verdicts) =>
          (later, ServerState.keptVerdicts (·.isKept hash server) events verdicts))) ∧
    (∀ (state : ServerState) (events : List ServerEvent),
      ∃ entries : List (ServerEvent × Handled), entries.map (·.1) = events ∧
        state.runAs hash server entries = state.run hash server events) ∧
    (∀ (state : ServerState) (entries : List (ServerEvent × Handled)),
      state.runAs hash server (entries.filter (·.1.isKept hash server)) =
        (state.runAs hash server entries).map (fun (later, verdicts) =>
          (later, ServerState.keptVerdicts (·.1.isKept hash server) entries verdicts))) ∧
    ∀ (entries : List (ServerEvent × Handled)) (state : ServerState)
      (verdicts : List (Option Verdict)),
      ServerState.empty.runAs hash server entries = some (state, verdicts) →
      ∀ (remote : Endpoint) (datagram secret : Bytes) (request : Message),
        server.secretOf? remote.ip = some secret →
        Message.ofRequestDatagram hash datagram secret = .ok request →
        (∀ earlier other, .datagram remote earlier ∈ entries.map (·.1) →
          Message.ofRequestDatagram hash earlier secret = .ok other →
          other.packet.identifier ≠ request.packet.identifier) →
        ∃ dedup, state.step hash server (.datagram remote datagram) =
          some (⟨dedup, state.calls ++
            [⟨⟨remote, secret, request⟩, state.dedup.generation, .claimed⟩]⟩, none) := by
  refine ⟨fun remote datagram hdrops => ?_, fun state events => ?_,
    fun state => ServerState.exists_runAs, fun state entries => ?_, ?_⟩
  · obtain ⟨fault, hfault⟩ := Server.exists_fault_of_drops hdrops
    refine ⟨fault, fun clock => ?_, fun state => ?_⟩
    · simp only [Server.serve, hfault]
    · exact ServerState.step_of_error hfault
  · rw [ServerState.run_eq_runBy, ServerState.run_eq_runBy]
    exact ServerState.runBy_filter (fun state event => ServerState.step_of_not_isKept) state events
  · refine ServerState.runBy_filter (fun state entry hdropped => ?_) state entries
    rw [ServerState.stepAs_of_not_isKept entry.2 hdropped]
    exact ServerState.step_of_not_isKept hdropped
  · intro entries state verdicts hrun remote datagram secret request hsecret hrequest hfirst
    have hreceived : server.receive hash remote datagram = .ok ⟨remote, secret, request⟩ :=
      Server.receive_eq_ok_iff.mpr ⟨hsecret, hrequest, rfl⟩
    refine ServerState.step_of_received hreceived (Classical.byContradiction fun hcached => ?_)
    obtain ⟨remote', earlier, received, hmem, hearlier, hkey⟩ :=
      ServerState.exists_received_of_cached hrun hcached
    obtain ⟨hsecret', hother, rfl⟩ := Server.receive_eq_ok_iff.mp hearlier
    obtain ⟨hremote, hidentifier⟩ := RequestKey.mk.inj hkey
    rw [hremote] at hmem hsecret'
    cases hsecret.symm.trans hsecret'
    exact hfirst earlier received.request hmem hother hidentifier

/-! ## A sample run

The sample request comes in behind two datagrams with its identifier: one from its own address that
claims to be a signed Accounting-Request, and a copy of itself from a stranger. -/

namespace Server

namespace Sample

/-- The sample server, for the sample address only. -/
def guarded : Server :=
  { server with
    secretOf? := fun ip => if ip = Users.Sample.remote.ip then some Message.Sample.secret else none }

def stranger : Endpoint := ⟨.v4 ⟨⟨[192, 168, 1, 17], rfl⟩⟩, 1812⟩

def forged : Bytes := datagram.set 0 4

def intruded : List ServerEvent :=
  .datagram Users.Sample.remote forged :: .datagram stranger datagram :: events

end Sample

theorem sample_leaves_no_trace :
    Sample.guarded.drops Md5.digest Users.Sample.remote Sample.forged ∧
      Sample.guarded.drops Md5.digest Sample.stranger Sample.datagram ∧
      Sample.intruded.filter (·.isKept Md5.digest Sample.guarded) = Sample.events ∧
      ∃ state, ServerState.empty.run Md5.digest Sample.guarded Sample.intruded =
          some (state, [some (.failed (.packet (.authenticatorMismatch .accountingRequest))),
            some (.failed .stranger), none, none, none, some (.reply Sample.reply)]) ∧
        ServerState.empty.run Md5.digest Sample.guarded Sample.events =
          some (state, [none, none, none, some (.reply Sample.reply)]) := by
  have hforged : Sample.guarded.drops Md5.digest Users.Sample.remote Sample.forged := by
    decide +kernel
  have hstranger : Sample.guarded.drops Md5.digest Sample.stranger Sample.datagram := by
    decide +kernel
  have hkept : Sample.intruded.filter (·.isKept Md5.digest Sample.guarded) = Sample.events := by
    decide +kernel
  have hverdicts : (ServerState.empty.run Md5.digest Sample.guarded Sample.intruded).map (·.2) =
      some [some (.failed (.packet (.authenticatorMismatch .accountingRequest))),
        some (.failed .stranger), none, none, none, some (.reply Sample.reply)] := by
    decide +kernel
  obtain ⟨⟨state, verdicts⟩, hrun, rfl⟩ := Option.map_eq_some_iff.mp hverdicts
  have hwithout := (dropped_leave_no_trace Md5.digest Sample.guarded).2.1 .empty Sample.intruded
  rw [hkept, hrun] at hwithout
  refine ⟨hforged, hstranger, hkept, state, hrun, hwithout.trans ?_⟩
  have hothers : ServerState.keptVerdicts (·.isKept Md5.digest Sample.guarded) Sample.intruded
      [some (.failed (.packet (.authenticatorMismatch .accountingRequest))),
        some (.failed .stranger), none, none, none, some (.reply Sample.reply)] =
      [none, none, none, some (.reply Sample.reply)] := by
    decide +kernel
  exact congrArg (fun verdicts => some (state, verdicts)) hothers

end Server
end Radius
