import SingleFlight.Time

/-!
Clocks that begin and end.

Instants are counted here without end.  The clock of a machine shows a first instant and a last one,
and its spans are seconds in 64 bits with the nanoseconds beyond them.  On such a clock a sum or a
difference may lead nowhere: `later?` and `earlier?` say so and do not leave the clock.
-/

namespace SingleFlight

/-- The longest span that a machine tells apart: its whole seconds are counted in 64 bits. -/
def Span.longest : Nat := Span.ofSeconds 18446744073709551616 - 1

structure FiniteClock where
  first : Nat
  last : Nat
  /-- Any two instants are no further apart than a span can be. -/
  extent : last - first ≤ Span.longest

namespace FiniteClock

variable (c : FiniteClock)

/-- From the least to the greatest second in 64 bits with a sign. -/
def wide : FiniteClock := { first := 0, last := Span.longest, extent := Nat.sub_le _ _ }

def Shows (t : Nat) : Prop := c.first ≤ t ∧ t ≤ c.last

instance (t : Nat) : Decidable (c.Shows t) := inferInstanceAs (Decidable (_ ∧ _))

/-- The instant a span after another, if the clock goes so far. -/
def later? (t d : Nat) : Option Nat := if t + d ≤ c.last then some (t + d) else none

/-- The instant a span before another, if the clock has it. -/
def earlier? (t d : Nat) : Option Nat := if c.first + d ≤ t then some (t - d) else none

/-- The instant a lifetime ends that starts now, or now where the clock ends before. -/
def after (now lifetime : Nat) : Nat := (c.later? now (min lifetime Span.maxLifetime)).getD now

variable {c} {t d : Nat}

theorem later?_of_le (h : t + d ≤ c.last) : c.later? t d = some (t + d) := if_pos h

theorem earlier?_of_le (h : c.first + d ≤ t) : c.earlier? t d = some (t - d) := if_pos h

theorem after_shows {now : Nat} (hn : c.Shows now) (lifetime : Nat) :
    c.Shows (c.after now lifetime) := by
  have from_first := hn.1
  unfold after later?
  split
  · exact ⟨by simp only [Option.getD_some]; omega, ‹_›⟩
  · exact hn

theorem after_eq {now : Nat} (h : now + Span.maxLifetime ≤ c.last) (lifetime : Nat) :
    c.after now lifetime = Instant.after now lifetime := by
  have enough : now + min lifetime Span.maxLifetime ≤ c.last :=
    Nat.le_trans (Nat.add_le_add_left (Nat.min_le_right _ _) _) h
  rw [after, later?_of_le enough]
  rfl

theorem after_eq_iff {now : Nat} (hn : c.Shows now) (lifetime : Nat) :
    c.after now lifetime = Instant.after now lifetime ↔ Instant.after now lifetime ≤ c.last := by
  have to_last := hn.2
  unfold after later? Instant.after
  split
  · exact iff_of_true rfl ‹_›
  · simp only [Option.getD_none]
    omega

/-- No lifetime meets the end of a clock exactly if the clock goes on for a year. -/
theorem forall_after_eq_iff {now : Nat} (hn : c.Shows now) :
    (∀ lifetime, c.after now lifetime = Instant.after now lifetime) ↔
      now + Span.maxLifetime ≤ c.last := by
  refine ⟨fun same => ?_, fun goes_on => after_eq goes_on⟩
  have year := (after_eq_iff hn _).1 (same Span.maxLifetime)
  rwa [Instant.after, Nat.min_self] at year

/-- The time left until an instant of the clock is a span. -/
theorem remaining_le_longest {due now : Nat} (hd : c.Shows due) (hn : c.Shows now) :
    Instant.remaining due now ≤ Span.longest := by
  have extent := c.extent
  have before := hd.2
  have after := hn.1
  unfold Instant.remaining
  omega

end FiniteClock
end SingleFlight
