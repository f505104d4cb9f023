import SingleFlight.Failure
import SingleFlight.Resource

/-!
Where resources come from.

A `Source` is what a cache fetches from.  It may remember something from one call to the next, and
a call lays down when the fetch will be done and how it ends then.
-/

namespace SingleFlight

/-- A fetch that has been called. -/
structure Fetch (α : Type) where
  /-- The instant from which the fetch can end. -/
  due : Nat
  /-- Whether its end takes away the callers that wait for it. -/
  severs : Bool
  /-- How it ends, in the surroundings of its end. -/
  ending : Surroundings → Surroundings × Ending (Resource α)

/-- A source of resources with a memory `σ`. -/
structure Source (σ κ α : Type) where
  call : σ → κ → Nat → Fetch α × σ

end SingleFlight
