import SingleFlight.Time

/-!
Waiting times between attempts: a base that doubles with every attempt, up to a limit.
-/

namespace SingleFlight

/-- Base and limit in milliseconds, both below `2 ^ 64`. -/
structure Backoff where
  base : Nat
  limit : Nat
deriving DecidableEq, Repr

namespace Backoff

/-- The largest unsigned 64-bit integer, at which the product is held. -/
def ceiling : Nat := 18446744073709551615

/-- Doublings before the wait that follows attempt `n`; attempts count from one, and the doubling
ends after 32 steps. -/
def doublings (n : Nat) : Nat := min (n - 1) 32

/-- The wait after attempt `n`, in milliseconds. -/
def millis (b : Backoff) (n : Nat) : Nat :=
  min (min (b.base * Nat.pow 2 (doublings n)) ceiling) b.limit

/-- The wait after attempt `n`, as a span. -/
def delay (b : Backoff) (n : Nat) : Nat := Span.ofMillis (b.millis n)

theorem millis_le_limit (b : Backoff) (n : Nat) : b.millis n ≤ b.limit := Nat.min_le_right _ _

theorem doublings_mono {m n : Nat} (h : m ≤ n) : doublings m ≤ doublings n := by
  unfold doublings; omega

end Backoff
end SingleFlight
