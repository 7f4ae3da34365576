-- SUMMARY: A deduplicator with a clock: every eviction runs when its time has come.
import Radius.Dedup.Run

/-!
# Evictions by the clock

Every claim is remembered for the same time, so evictions fall due in the order in
which they are scheduled. No eviction waits for longer than thirty years. The clock
only moves when it is told how much time has passed.
-/

namespace Radius

/-- A deduplicator and when its scheduled evictions are due; times are in milliseconds. -/
structure DedupClock where
  dedup : Deduplicator
  /-- How long a claim is to be remembered. -/
  timeout : Nat
  now : Nat
  /-- When each scheduled eviction is due, oldest first. -/
  due : List Nat
deriving DecidableEq, Repr

namespace DedupClock

def new (timeout : Nat) : DedupClock := ⟨.empty, timeout, 0, []⟩

/-- The longest time that an eviction waits: thirty years of 365 days. -/
def longestWait : Nat := 30 * 365 * 24 * 60 * 60 * 1000

/-- How long an eviction waits. -/
def wait (clock : DedupClock) : Nat := min clock.timeout longestWait

/-- Claim a request, and schedule its eviction for the end of its time. -/
def receive (clock : DedupClock) (key : RequestKey) : Admission × DedupClock :=
  match clock.dedup.receive key with
  | (.duplicate, _) => (.duplicate, clock)
  | (.admitted generation, dedup) =>
      (.admitted generation,
        { clock with dedup := dedup, due := clock.due ++ [clock.now + clock.wait] })

def settle (clock : DedupClock) (key : RequestKey) (generation : UInt64) (outcome : Outcome) :
    DedupClock :=
  { clock with dedup := clock.dedup.settle key generation outcome }

/-- Run the eviction at an index before its time. -/
def fire? (clock : DedupClock) (index : Nat) : Option DedupClock :=
  (clock.dedup.fire? index).map (fun dedup =>
    { clock with dedup := dedup, due := clock.due.eraseIdx index })

/-- Forget every request. -/
def clear (clock : DedupClock) : DedupClock := { clock with dedup := clock.dedup.clear }

/-- Let time pass. -/
def advance (clock : DedupClock) (elapsed : Nat) : DedupClock :=
  { clock with now := clock.now + elapsed }

/-- Run every eviction that is due. -/
def expire (clock : DedupClock) : DedupClock :=
  let (overdue, later) :=
    (clock.dedup.scheduled.zip clock.due).partition (fun entry => entry.2 ≤ clock.now)
  let dedup := overdue.foldl (fun dedup entry => dedup.evict entry.1)
    { clock.dedup with scheduled := later.map (·.1) }
  { clock with dedup := dedup, due := later.map (·.2) }

end DedupClock
end Radius
