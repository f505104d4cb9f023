import SingleFlight.Proofs.FiniteClock
import SingleFlight.Token.Window

/-!
When a token should be replaced.

A token that outlives the lead is due that long before its expiry, and any other after half of what
it has to live.  The two rules meet without a gap: the instant never lies before the moment at which
it is worked out, nor after the expiry of a token that lives, and `refreshInstant?` finds it on
every clock that shows the two.

A resource that is made to last until then is never valid with an expired token, however often this
has been done to it before.
-/

namespace SingleFlight

/-- The refresh instant worked out on a clock, with each sum and each difference checked. -/
def FiniteClock.refreshInstant? (c : FiniteClock) (now expiresAt lead : Nat) : Option Nat :=
  let lifetime := Instant.remaining expiresAt now
  if lead < lifetime then c.earlier? expiresAt lead else c.later? now (lifetime / 2)

namespace Token

variable {now expiresAt lead : Nat}

theorem refreshInstant_of_outlives (h : lead < expiresAt - now) :
    refreshInstant now expiresAt lead = expiresAt - lead := if_pos h

theorem refreshInstant_of_short (h : expiresAt - now ≤ lead) :
    refreshInstant now expiresAt lead = now + (expiresAt - now) / 2 := if_neg (Nat.not_lt.2 h)

/-- The instant is on the clock, so that neither rule leaves it. -/
theorem refreshInstant?_eq {c : FiniteClock} (hn : c.Shows now) (he : c.Shows expiresAt) :
    c.refreshInstant? now expiresAt lead = some (refreshInstant now expiresAt lead) := by
  have from_first := hn.1
  have to_now := hn.2
  have to_last := he.2
  rcases Nat.lt_or_ge lead (expiresAt - now) with outlives | short
  · rw [refreshInstant_of_outlives outlives]
    exact (if_pos outlives).trans (FiniteClock.earlier?_of_le (by omega))
  · rw [refreshInstant_of_short short]
    exact (if_neg (Nat.not_lt.2 short)).trans
      (FiniteClock.later?_of_le (d := (expiresAt - now) / 2) (by omega))

/-- A token is due at once, or at its expiry, only where there is nothing between the two, or
nothing to keep clear of the expiry. -/
theorem refreshInstant_strict (alive : now < expiresAt) :
    (refreshInstant now expiresAt lead < expiresAt ↔ 0 < lead) ∧
      (now < refreshInstant now expiresAt lead ↔ 2 ≤ expiresAt - now ∨ lead = 0) := by
  rcases Nat.lt_or_ge lead (expiresAt - now) with outlives | short
  · rw [refreshInstant_of_outlives outlives]
    omega
  · rw [refreshInstant_of_short short]
    omega

/-- The resource after its rule has been replaced at each of these instants, by one with this
lead. -/
def untilRefreshes (r : Resource Token) (looks : List (Nat × Nat)) : Resource Token :=
  looks.foldl (fun r (now, lead) => untilRefresh now r lead) r

theorem untilRefreshes_same (r : Resource Token) (looks : List (Nat × Nat)) :
    (untilRefreshes r looks).value = r.value ∧ (untilRefreshes r looks).shares r = true ∧
      (untilRefreshes r looks).sensitive = r.sensitive := by
  induction looks generalizing r with
  | nil => exact ⟨rfl, by simp [untilRefreshes, Resource.shares], rfl⟩
  | cons look looks ih => exact ih (untilRefresh look.1 r look.2)

theorem untilRefresh_valid {r : Resource Token} {env : Surroundings} (later : now ≤ env.now)
    (valid : ((untilRefresh now r lead).validity.check env).1 = true) :
    r.value.isExpired env.now = false := by
  have before : env.now < refreshInstant now r.value.expiresAt lead :=
    Validity.check_expiresAt.1 valid
  have bound : refreshInstant now r.value.expiresAt lead ≤ max now r.value.expiresAt := by
    rcases Nat.le_total now r.value.expiresAt with alive | expired
    · exact Nat.le_trans (refreshInstant_le alive) (Nat.le_max_right _ _)
    · rw [refreshInstant_of_short (by omega)]
      omega
  simp only [isExpired, decide_eq_false_iff_not]
  omega

/-- Where the refresh instant of a token lies, and what that is worth.

On a clock that shows the present and the expiry the time between them is a span, and the instant
can be worked out for every lead.  While the token lives it lies between the two: the lead before
the expiry if the token outlives the lead, and otherwise at half of the lifetime, rounded down to a
nanosecond.  It is the expiry only if there is no lead, and the present only if there is one and the
token has but one nanosecond to live.  For an expired token it is the present.

So a resource made to last until then is not valid with an expired token; and however often it has
been made so before, this one lasts no longer than a token that lives. -/
theorem refreshInstant_placed {c : FiniteClock} (hn : c.Shows now) (he : c.Shows expiresAt)
    (lead : Nat) :
    (Instant.remaining expiresAt now ≤ Span.longest ∧
      c.refreshInstant? now expiresAt lead = some (refreshInstant now expiresAt lead)) ∧
    (now < expiresAt →
      (now ≤ refreshInstant now expiresAt lead ∧ refreshInstant now expiresAt lead ≤ expiresAt) ∧
      (lead < expiresAt - now → refreshInstant now expiresAt lead = expiresAt - lead) ∧
      (expiresAt - now ≤ lead →
        refreshInstant now expiresAt lead = now + (expiresAt - now) / 2) ∧
      (refreshInstant now expiresAt lead < expiresAt ↔ 0 < lead) ∧
      (now < refreshInstant now expiresAt lead ↔ 2 ≤ expiresAt - now ∨ lead = 0)) ∧
    (expiresAt ≤ now → refreshInstant now expiresAt lead = now) ∧
    ∀ (r : Resource Token) (looks : List (Nat × Nat)), r.value.expiresAt = expiresAt →
      let r' := untilRefresh now (untilRefreshes r looks) lead
      (r'.value = r.value ∧ r'.shares r = true ∧ r'.sensitive = r.sensitive) ∧
      (∀ env, now ≤ env.now → (r'.validity.check env).1 = true →
        r.value.isExpired env.now = false) ∧
      (now < expiresAt → ∃ due, r'.validity = .expiresAt due ∧ due ≤ expiresAt) := by
  refine ⟨⟨FiniteClock.remaining_le_longest he hn, refreshInstant?_eq hn he⟩, fun alive => ?_,
    fun expired => ?_, ?_⟩
  · exact ⟨⟨le_refreshInstant, refreshInstant_le (Nat.le_of_lt alive)⟩,
      refreshInstant_of_outlives, refreshInstant_of_short, refreshInstant_strict alive⟩
  · rw [refreshInstant_of_short (by omega)]
    omega
  · intro r looks expires r'
    obtain ⟨value, shares, sensitive⟩ := untilRefreshes_same r looks
    refine ⟨⟨value, shares, sensitive⟩, fun env later valid => ?_, fun alive => ⟨_, rfl, ?_⟩⟩
    · rw [← value]
      exact untilRefresh_valid later valid
    · rw [value, expires]
      exact refreshInstant_le (Nat.le_of_lt alive)

/-- A token of one nanosecond is due at once, on the widest clock and with the longest lead. -/
theorem refreshInstant_placed_fleeting :
    FiniteClock.wide.Shows 5 ∧ FiniteClock.wide.Shows 6 ∧
      FiniteClock.wide.refreshInstant? 5 6 Span.longest = some 5 ∧
      ¬ (((untilRefresh 5 ⟨⟨"token", 6⟩, 0, .permanent, true⟩ Span.longest).validity.check
        (Surroundings.start.pass 5)).1 = true) := by
  have shows5 : FiniteClock.wide.Shows 5 := by decide
  have shows6 : FiniteClock.wide.Shows 6 := by decide
  obtain ⟨⟨-, found⟩, placed, -, -⟩ := refreshInstant_placed shows5 shows6 Span.longest
  obtain ⟨-, -, half, -, -⟩ := placed (by decide)
  have due : refreshInstant 5 6 Span.longest = 5 := half (by decide)
  refine ⟨shows5, shows6, found.trans (by rw [due]), ?_⟩
  rw [untilRefresh, Resource.revalidated, Validity.check_expiresAt, due]
  decide

end Token
end SingleFlight
