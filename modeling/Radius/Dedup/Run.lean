-- SUMMARY: Runs of a deduplicator in front of a handler: the steps of its calls, evictions and clearing in any order.
import Radius.Dedup.Basic
import Radius.Handler.Basic

/-!
# Runs of a deduplicator

A request that arrives claims its key, schedules its eviction, enters the handler behind
the deduplicator and settles when the handler has finished. These steps of different
requests may come in any order, and evictions and clearing may fall between any two of
them, also between two steps of one call. A `DedupSystem` is a deduplicator with the calls
that are under way, and `DedupSystem.step` carries out one event; an event that cannot
happen in a state has no step.
-/

namespace Radius

/-- How far a call has come. -/
inductive CallStage where
  | claimed
  /-- The eviction is scheduled, and the handler has not been entered. -/
  | scheduled
  /-- The handler is at work. -/
  | running
deriving DecidableEq, Repr

/-- A call under way. -/
structure DedupCall where
  key : RequestKey
  generation : UInt64
  stage : CallStage
deriving DecidableEq, Repr

inductive DedupEvent where
  /-- A request with this key arrives. -/
  | arrive (key : RequestKey)
  /-- The call at this index schedules its eviction. -/
  | schedule (call : Nat)
  /-- The call at this index enters the handler. -/
  | enter (call : Nat)
  /-- The handler of the call at this index finishes. -/
  | finish (call : Nat) (outcome : Outcome)
  /-- The scheduled eviction at this index runs. -/
  | fire (eviction : Nat)
  | clear
deriving DecidableEq, Repr

structure DedupSystem where
  dedup : Deduplicator
  calls : List DedupCall
deriving DecidableEq, Repr

namespace DedupSystem

def empty : DedupSystem := ⟨.empty, []⟩

/-- Carry out an event. A duplicate arrival changes nothing. -/
def step (system : DedupSystem) : DedupEvent → Option DedupSystem
  | .arrive key =>
      match system.dedup.claim key with
      | none => some system
      | some (generation, dedup) => some ⟨dedup, system.calls ++ [⟨key, generation, .claimed⟩]⟩
  | .schedule index =>
      match system.calls[index]? with
      | some ⟨key, generation, .claimed⟩ =>
          some ⟨system.dedup.schedule key generation,
            system.calls.set index ⟨key, generation, .scheduled⟩⟩
      | _ => none
  | .enter index =>
      match system.calls[index]? with
      | some ⟨key, generation, .scheduled⟩ =>
          some ⟨system.dedup, system.calls.set index ⟨key, generation, .running⟩⟩
      | _ => none
  | .finish index outcome =>
      match system.calls[index]? with
      | some ⟨key, generation, .running⟩ =>
          some ⟨system.dedup.settle key generation outcome, system.calls.eraseIdx index⟩
      | _ => none
  | .fire index => (system.dedup.fire? index).map (fun dedup => ⟨dedup, system.calls⟩)
  | .clear => some ⟨system.dedup.clear, system.calls⟩

/-- Carry out events one after the other. -/
def run (system : DedupSystem) : List DedupEvent → Option DedupSystem
  | []             => some system
  | event :: later => (system.step event).bind (run · later)

end DedupSystem

/-- How a handler finished, by what it came to. -/
def Outcome.ofHandled : Handled → Outcome
  | .ok (some _) => .responded
  | .ok none     => .noResponse
  | .error _     => .failed

/-- End the call at an index with what its handler came to, which is what its caller gets. -/
def DedupSystem.complete? (system : DedupSystem) (index : Nat) (handled : Handled) :
    Option (Handled × DedupSystem) :=
  (system.step (.finish index (Outcome.ofHandled handled))).map (fun next => (handled, next))

/-- What becomes of a request that arrives. -/
inductive Admission where
  /-- An earlier request with the same key is remembered. -/
  | duplicate
  /-- The handler is to be entered, under this generation. -/
  | admitted (generation : UInt64)
deriving DecidableEq, Repr

namespace Deduplicator

/-- Claim a request and schedule its eviction at once. -/
def receive (dedup : Deduplicator) (key : RequestKey) : Admission × Deduplicator :=
  match dedup.claim key with
  | none => (.duplicate, dedup)
  | some (generation, dedup) => (.admitted generation, dedup.schedule key generation)

/-- Handle a request that no other event interrupts. -/
def handle (dedup : Deduplicator) (key : RequestKey) (handler : Unit → Handled) :
    Handled × Deduplicator :=
  match dedup.receive key with
  | (.duplicate, dedup) => (.ok none, dedup)
  | (.admitted generation, dedup) =>
      let handled := handler ()
      (handled, dedup.settle key generation (Outcome.ofHandled handled))

end Deduplicator
end Radius
