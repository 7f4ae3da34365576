-- SUMMARY: Runs of a server: datagrams, handlers at work, evictions and clearing in any order, and what is sent.
import Radius.Dedup.Clock
import Radius.Server.Basic

/-!
# Runs of a server

A datagram that is received claims its key at the deduplicator. Its eviction is
scheduled, the handler is entered, and when the handler has finished the claim is settled
and the verdict given. These steps of different datagrams may come in any order, with
evictions and clearing between any two of them. `ServerState.step` carries out one event;
an event that cannot happen in a state has no step. `serve` takes one datagram through
all its steps at once.
-/

namespace Radius

/-- A request under way, with its claim. -/
structure ServerCall where
  received : Received
  generation : UInt64
  stage : CallStage
deriving DecidableEq, Repr

structure ServerState where
  dedup : Deduplicator
  calls : List ServerCall
deriving DecidableEq, Repr

inductive ServerEvent where
  | datagram (remote : Endpoint) (bytes : Bytes)
  /-- The call at this index schedules its eviction. -/
  | schedule (call : Nat)
  /-- The call at this index enters the handler. -/
  | enter (call : Nat)
  /-- The handler of the call at this index finishes. -/
  | finish (call : Nat)
  /-- The scheduled eviction at this index runs. -/
  | fire (eviction : Nat)
  | clear
deriving DecidableEq, Repr

namespace ServerState

def empty : ServerState := ⟨.empty, []⟩

/-- Take a datagram in: it claims its key, or the verdict is given at once. -/
def arrive (hash : Hash) (server : Server) (state : ServerState) (remote : Endpoint)
    (bytes : Bytes) : ServerState × Option Verdict :=
  match server.receive hash remote bytes with
  | .error fault => (state, some (.failed fault))
  | .ok received =>
      match state.dedup.claim received.key with
      | none => (state, some .duplicate)
      | some (generation, dedup) =>
          (⟨dedup, state.calls ++ [⟨received, generation, .claimed⟩]⟩, none)

/-- Carry out an event, and give the verdict on the datagram that it ends. -/
def step (hash : Hash) (server : Server) (state : ServerState) :
    ServerEvent → Option (ServerState × Option Verdict)
  | .datagram remote bytes => some (state.arrive hash server remote bytes)
  | .schedule index =>
      match state.calls[index]? with
      | some ⟨received, generation, .claimed⟩ =>
          some (⟨state.dedup.schedule received.key generation,
            state.calls.set index ⟨received, generation, .scheduled⟩⟩, none)
      | _ => none
  | .enter index =>
      match state.calls[index]? with
      | some ⟨received, generation, .scheduled⟩ =>
          some (⟨state.dedup, state.calls.set index ⟨received, generation, .running⟩⟩, none)
      | _ => none
  | .finish index =>
      match state.calls[index]? with
      | some ⟨received, generation, .running⟩ =>
          let handled := (server.handle hash received).1
          some (⟨state.dedup.settle received.key generation (Outcome.ofHandled handled),
            state.calls.eraseIdx index⟩, some (Server.respond hash received handled))
      | _ => none
  | .fire index => (state.dedup.fire? index).map (fun dedup => (⟨dedup, state.calls⟩, none))
  | .clear => some (⟨state.dedup.clear, state.calls⟩, none)

/-- Carry out events one after the other, with what each of them gives. -/
def run (hash : Hash) (server : Server) (state : ServerState) :
    List ServerEvent → Option (ServerState × List (Option Verdict))
  | [] => some (state, [])
  | event :: later =>
      match state.step hash server event with
      | none => none
      | some (state, verdict) =>
          (state.run hash server later).map (fun (state, verdicts) => (state, verdict :: verdicts))

end ServerState

namespace Server

/-- The clock of a server that starts. -/
def clock (server : Server) : DedupClock := .new (server.dedupSeconds * 1000)

/-- Take a datagram from its arrival to its verdict, with the remarks of the handler. -/
def serve (hash : Hash) (server : Server) (clock : DedupClock) (remote : Endpoint) (bytes : Bytes) :
    Verdict × List HandlerWarning × DedupClock :=
  match server.receive hash remote bytes with
  | .error fault => (.failed fault, [], clock)
  | .ok received =>
      match clock.receive received.key with
      | (.duplicate, clock) => (.duplicate, [], clock)
      | (.admitted generation, clock) =>
          let (handled, warnings) := server.handle hash received
          (respond hash received handled, warnings,
            clock.settle received.key generation (Outcome.ofHandled handled))

end Server
end Radius
