-- SUMMARY: Memory of recent requests: claiming a request, settling it, and forgetting it after a while.
import Radius.Address.Basic
import Radius.Table

/-!
# Remembering requests

A client sends a request again when the response is late. Requests are remembered by
where they come from and by their identifier: the first one with a key claims it, and
the others are duplicates for as long as the entry lasts. Each claim has a generation
of its own, and the eviction it schedules removes the entry of that generation only,
so an eviction left over from an entry that was cleared does no harm to a later one.
-/

namespace Radius

/-- What tells requests apart. -/
structure RequestKey where
  remote : Endpoint
  identifier : UInt8
deriving DecidableEq, Repr

/-- How a handler finished. -/
inductive Outcome where
  | responded
  | noResponse
  | failed
deriving DecidableEq, Repr

inductive EntryState where
  /-- The handler is still at work. -/
  | pending
  | settled (outcome : Outcome)
deriving DecidableEq, Repr

structure DedupEntry where
  generation : UInt64
  state : EntryState
deriving DecidableEq, Repr

/-- A removal to come: of the entry with this key, if it still has this generation. -/
structure Eviction where
  key : RequestKey
  generation : UInt64
deriving DecidableEq, Repr

structure Deduplicator where
  entries : Table RequestKey DedupEntry
  /-- The generation of the next claim. -/
  generation : UInt64
  /-- Evictions that are scheduled and have not run, oldest first. -/
  scheduled : List Eviction
deriving DecidableEq, Repr

namespace Deduplicator

/-- How many seconds a request is remembered unless something else is said. -/
def defaultSeconds : Nat := 30

def empty : Deduplicator := ⟨Table.empty, 0, []⟩

def size (dedup : Deduplicator) : Nat := dedup.entries.size

def stateOf? (dedup : Deduplicator) (key : RequestKey) : Option EntryState :=
  (dedup.entries.find? key).map (·.state)

/-- Enter a request as pending under a new generation; none for a duplicate. -/
def claim (dedup : Deduplicator) (key : RequestKey) : Option (UInt64 × Deduplicator) :=
  if dedup.entries.contains key then none
  else
    some (dedup.generation,
      { dedup with
        entries := dedup.entries.insert key ⟨dedup.generation, .pending⟩
        generation := dedup.generation + 1 })

/-- Schedule the eviction of a claim. -/
def schedule (dedup : Deduplicator) (key : RequestKey) (generation : UInt64) : Deduplicator :=
  { dedup with scheduled := dedup.scheduled ++ [⟨key, generation⟩] }

/-- Record how the handler of a claim finished, if the entry is still that of the claim. -/
def settle (dedup : Deduplicator) (key : RequestKey) (generation : UInt64) (outcome : Outcome) :
    Deduplicator :=
  { dedup with
    entries := dedup.entries.modify key (fun entry =>
      if entry.generation = generation then { entry with state := .settled outcome } else entry) }

/-- Remove the entry of an eviction, if it still has the generation. -/
def evict (dedup : Deduplicator) (eviction : Eviction) : Deduplicator :=
  match dedup.entries.find? eviction.key with
  | some entry =>
      if entry.generation = eviction.generation then
        { dedup with entries := dedup.entries.erase eviction.key }
      else dedup
  | none => dedup

/-- Take the eviction at an index off the list and run it; none if there is no such eviction. -/
def fire? (dedup : Deduplicator) (index : Nat) : Option Deduplicator :=
  (dedup.scheduled[index]?).map (fun eviction =>
    { dedup with scheduled := dedup.scheduled.eraseIdx index }.evict eviction)

/-- Forget every request; the evictions stay scheduled. -/
def clear (dedup : Deduplicator) : Deduplicator := { dedup with entries := Table.empty }

end Deduplicator
end Radius
