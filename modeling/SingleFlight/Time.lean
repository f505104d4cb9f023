/-!
Instants and spans, both natural numbers of nanoseconds.

An instant is a distance from the start of the clock.  The subtraction of `Nat` stops at zero, so
the time left until an instant that has passed is zero.
-/

namespace SingleFlight
namespace Span

def ofMillis (n : Nat) : Nat := n * 1000000

def ofSeconds (n : Nat) : Nat := n * 1000000000

/-- Lifetimes come from remote endpoints; one year is the longest that is believed. -/
def maxLifetime : Nat := ofSeconds (365 * 24 * 60 * 60)

/-- Whole seconds. -/
def seconds (d : Nat) : Nat := d / 1000000000

/-- The nanoseconds beyond the whole seconds. -/
def subsecond (d : Nat) : Nat := d % 1000000000

/-- `places` decimal digits of `fraction`, without the zeros at the end. -/
def fractionDigits (places fraction : Nat) : List Char :=
  let digits := Nat.toDigits 10 fraction
  let padded := List.replicate (places - digits.length) '0' ++ digits
  (padded.reverse.dropWhile (· == '0')).reverse

/-- A whole number and a fraction of `10 ^ places` parts. -/
def decimalText (whole fraction places : Nat) : String :=
  if fraction = 0 then toString whole
  else toString whole ++ "." ++ String.ofList (fractionDigits places fraction)

/-- The span in the largest unit of which it holds at least one. -/
def text (d : Nat) : String :=
  if 1000000000 ≤ d then decimalText (d / 1000000000) (d % 1000000000) 9 ++ "s"
  else if 1000000 ≤ d then decimalText (d / 1000000) (d % 1000000) 6 ++ "ms"
  else if 1000 ≤ d then decimalText (d / 1000) (d % 1000) 3 ++ "µs"
  else toString d ++ "ns"

end Span

namespace Instant

/-- The instant a lifetime ends that starts now.  Lifetimes beyond a year are cut to a year, so the
clock cannot overflow. -/
def after (now : Nat) (lifetime : Nat) : Nat := now + min lifetime Span.maxLifetime

/-- The nearest signed 64-bit integer. -/
def saturate (n : Int) : Int := max (-9223372036854775808) (min 9223372036854775807 n)

/-- The instant at which the wall clock shows the UNIX second `expiry`, when it shows `wall` now.
A second in the past is now. -/
def ofUnix (now : Nat) (wall expiry : Int) : Nat :=
  after now (Span.ofSeconds (max (saturate (expiry - wall)) 0).toNat)

/-- Time left until `due`, zero once it has passed. -/
def remaining (due now : Nat) : Nat := due - now

/-- Timers fire on whole milliseconds: the first one that is not before the instant. -/
def tick (due : Nat) : Nat := (due + 999999) / 1000000 * 1000000

end Instant

/-! ## Laws of the arithmetic -/

theorem Instant.le_after (now : Nat) (lifetime : Nat) : now ≤ Instant.after now lifetime :=
  Nat.le_add_right _ _

/-- No second is so far that the least or the greatest of 64 bits would be nearer. -/
theorem Instant.ofUnix_eq (now : Nat) (wall expiry : Int) :
    Instant.ofUnix now wall expiry =
      now + min (Span.ofSeconds (max (expiry - wall) 0).toNat) Span.maxLifetime := by
  unfold Instant.ofUnix Instant.after Instant.saturate Span.maxLifetime Span.ofSeconds
  omega

theorem Instant.remaining_eq_zero_iff {due now : Nat} :
    Instant.remaining due now = 0 ↔ due ≤ now :=
  Nat.sub_eq_zero_iff_le

theorem Instant.le_tick (due : Nat) : due ≤ Instant.tick due := by
  unfold Instant.tick; omega

end SingleFlight
