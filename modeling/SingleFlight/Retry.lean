import SingleFlight.Backoff
import SingleFlight.Failure
import SingleFlight.Log

/-!
Repeating an operation until it succeeds, fails in a way that repetition cannot mend, or has been
tried as often as the policy allows.

`Retry.run` is the whole story of one such operation: when each call began, how the last one ended,
and what was logged on the way.
-/

namespace SingleFlight
namespace Retry

/-- How often to call, and how long to wait between two calls. -/
structure Policy where
  attempts : Nat
  backoff : Backoff
deriving DecidableEq, Repr

/-- At least one attempt is made. -/
def Policy.make (attempts : Nat) (backoff : Backoff) : Policy :=
  { attempts := max attempts 1, backoff := backoff }

/-- Call number `n`, begun at an instant: the instant it ends and what it ends with. -/
abbrev Operation (α : Type) := Nat → Nat → Nat × Except Failure α

/-- A failed call, or the end of the attempts. -/
inductive Note where
  | failed (attempt attempts : Nat) (failure : Failure)
  | gaveUp (attempt : Nat) (failure : Failure)
deriving DecidableEq, Repr

def Note.record : Note → Log.Record
  | failed attempt attempts failure =>
    { level := .warn, target := "resource_cache::resilience::retry",
      message := "Attempt " ++ toString attempt ++ "/" ++ toString attempts ++ " failed: " ++
        failure.text,
      fields := [] }
  | gaveUp attempt failure =>
    { level := .error, target := "resource_cache::resilience::retry",
      message := "all " ++ toString attempt ++ " attempts failed: " ++ failure.text,
      fields := [] }

structure Run (α : Type) where
  /-- The instants at which the calls began. -/
  calls : List Nat
  /-- The instant at which the last call ended. -/
  finish : Nat
  result : Except Failure α
  notes : List Note

/-- The run from attempt `attempt` on, begun at `now`, with `spare` more attempts allowed. -/
def runFrom {α : Type} (p : Policy) (op : Operation α) (attempt now : Nat) : Nat → Run α
  | 0 =>
    let (finish, result) := op attempt now
    { calls := [now], finish := finish, result := result,
      notes := match result with
        | .ok _ => []
        | .error failure => [.gaveUp attempt failure] }
  | spare + 1 =>
    match op attempt now with
    | (finish, .ok value) =>
      { calls := [now], finish := finish, result := .ok value, notes := [] }
    | (finish, .error failure) =>
      if failure.isConfiguration then
        { calls := [now], finish := finish, result := .error failure,
          notes := [.gaveUp attempt failure] }
      else
        let next := Instant.tick (finish + p.backoff.delay attempt)
        let rest := runFrom p op (attempt + 1) next spare
        { rest with
          calls := now :: rest.calls
          notes := .failed attempt p.attempts failure :: rest.notes }

/-- All attempts, the first of them begun at `now`.  Attempts count from one. -/
def run {α : Type} (p : Policy) (op : Operation α) (now : Nat) : Run α :=
  runFrom p op 1 now (p.attempts - 1)

end Retry
end SingleFlight
