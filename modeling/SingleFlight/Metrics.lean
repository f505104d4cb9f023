import SingleFlight.Table

/-!
What is counted: requests and fetches of the caches, and refreshes of the token cache.

An `Event` is one change of a measurement.  A `Registry` holds what the events so far have added up
to, for each measurement and each combination of labels.
-/

namespace SingleFlight
namespace Metrics

inductive Event where
  /-- Requests that found what they asked for as `outcome` says. -/
  | requests (cache outcome : String) (n : Nat)
  | fetches (cache : String) (n : Nat)
  | failures (cache kind : String) (n : Nat)
  /-- One fetch that took so many nanoseconds. -/
  | duration (cache : String) (elapsed : Nat)
  | refreshes (cache : String) (n : Nat)
  | refreshFailures (cache : String) (n : Nat)
  /-- Refreshes that failed since the last success. -/
  | consecutiveFailures (cache : String) (n : Int)
deriving DecidableEq, Repr

structure Registry where
  requests : Table (String × String) Nat := Table.empty
  fetches : Table String Nat := Table.empty
  failures : Table (String × String) Nat := Table.empty
  /-- The observed spans of each cache, in order. -/
  durations : Table String (List Nat) := Table.empty
  refreshes : Table String Nat := Table.empty
  refreshFailures : Table String Nat := Table.empty
  consecutiveFailures : Table String Int := Table.empty

/-- Counters are 64 bits wide and start again after the last number. -/
def counterBound : Nat := 18446744073709551616

def bump {κ : Type} [DecidableEq κ] (t : Table κ Nat) (k : κ) (n : Nat) : Table κ Nat :=
  t.insert k (((t.get? k).getD 0 + n) % counterBound)

namespace Registry

def record (r : Registry) : Event → Registry
  | .requests cache outcome n => { r with requests := bump r.requests (cache, outcome) n }
  | .fetches cache n => { r with fetches := bump r.fetches cache n }
  | .failures cache kind n => { r with failures := bump r.failures (cache, kind) n }
  | .duration cache elapsed =>
    { r with
      durations := r.durations.insert cache ((r.durations.get? cache).getD [] ++ [elapsed]) }
  | .refreshes cache n => { r with refreshes := bump r.refreshes cache n }
  | .refreshFailures cache n => { r with refreshFailures := bump r.refreshFailures cache n }
  | .consecutiveFailures cache n =>
    { r with consecutiveFailures := r.consecutiveFailures.insert cache n }

def recordAll (r : Registry) (events : List Event) : Registry := events.foldl record r

end Registry
end Metrics
end SingleFlight
