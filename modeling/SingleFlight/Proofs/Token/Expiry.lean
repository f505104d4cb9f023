import SingleFlight.Proofs.FiniteClock
import SingleFlight.Token

/-!
When a token expires, and what is read of that.

The expiry comes from afar: as a lifetime, or as a UNIX second in 64 bits with a sign.  Instants and
seconds have no end here.  A machine takes the difference of two seconds in words, where it may not
fit, and adds it to an instant of a clock that ends; `Word.secondsUntil` and `FiniteClock.ofUnix`
are what it works out.  A difference that does not fit is far beyond the year that is believed, so
the nearest word does as well, and so does a clock that goes on for a year.

The expiry has three readers: one says how long the token lives, one whether it has expired and one
whether its resource may be served.  `Token.EndsAt` says that they agree at every instant, and
`expiry_exact` puts all this together.
-/

namespace SingleFlight

/-! ## Words -/

namespace Word

/-- The difference, or the nearest word if it does not fit.  One that does not fit comes round to
the wrong side of the number that it was taken from. -/
def subNearest (a b : Int64) : Int64 :=
  if b < 0 ∧ a - b < a then Int64.maxValue
  else if 0 ≤ b ∧ a < a - b then Int64.minValue
  else a - b

/-- The seconds that are left, none if the expiry has passed, as a word without a sign. -/
def secondsUntil (wall expiry : Int64) : UInt64 := (max (subNearest expiry wall) 0).toUInt64

/-- The difference of two words comes round once at most. -/
theorem toInt_sub_cases (a b : Int64) :
    (a - b).toInt = a.toInt - b.toInt ∨
    (a - b).toInt = a.toInt - b.toInt - 18446744073709551616 ∨
    (a - b).toInt = a.toInt - b.toInt + 18446744073709551616 := by
  have from_a := a.le_toInt
  have to_a := a.toInt_lt
  have from_b := b.le_toInt
  have to_b := b.toInt_lt
  rw [Int64.toInt_sub, Int.bmod_def]
  split <;> omega

theorem toInt_subNearest (a b : Int64) :
    (subNearest a b).toInt = Instant.saturate (a.toInt - b.toInt) := by
  have from_a := a.le_toInt
  have to_a := a.toInt_lt
  have from_b := b.le_toInt
  have to_b := b.toInt_lt
  have from_diff := (a - b).le_toInt
  have to_diff := (a - b).toInt_lt
  unfold subNearest Instant.saturate
  simp only [Int64.lt_iff_toInt_lt, Int64.le_iff_toInt_le, Int64.toInt_zero]
  -- Both tests fail on a difference that fits, and one holds of each that does not.
  rcases toInt_sub_cases a b with fits | large | small
  · rw [if_neg (by omega), if_neg (by omega)]
    omega
  · rw [if_pos (by omega), Int64.toInt_maxValue]
    omega
  · rw [if_neg (by omega), if_pos (by omega), Int64.toInt_minValue]
    omega

theorem toInt_max (a b : Int64) : (max a b).toInt = max a.toInt b.toInt := by
  have greater : max a b = if a ≤ b then b else a := rfl
  rw [greater, Int.max_def]
  simp only [Int64.le_iff_toInt_le]
  split <;> rfl

/-- What is not negative is the same number without a sign. -/
theorem toNat_secondsUntil (wall expiry : Int64) :
    (secondsUntil wall expiry).toNat =
      (max (Instant.saturate (expiry.toInt - wall.toInt)) 0).toNat := by
  have seconds : (max (subNearest expiry wall) 0).toInt =
      max (Instant.saturate (expiry.toInt - wall.toInt)) 0 := by
    rw [toInt_max, toInt_subNearest, Int64.toInt_zero]
  have natural : 0 ≤ max (subNearest expiry wall) 0 := by
    rw [Int64.le_iff_toInt_le, seconds, Int64.toInt_zero]
    exact Int.le_max_right _ _
  rw [secondsUntil, Int64.toNat_toUInt64_of_le natural, ← Int64.toNat_toInt, seconds]

end Word

/-! ## Clocks -/

/-- The instant at which the wall clock shows the second `expiry`, as a machine works it out. -/
def FiniteClock.ofUnix (c : FiniteClock) (now : Nat) (wall expiry : Int64) : Nat :=
  c.after now (Span.ofSeconds (Word.secondsUntil wall expiry).toNat)

theorem Instant.ofUnix_eq_after (now : Nat) (wall expiry : Int64) :
    Instant.ofUnix now wall.toInt expiry.toInt =
      Instant.after now (Span.ofSeconds (Word.secondsUntil wall expiry).toNat) := by
  rw [Word.toNat_secondsUntil]
  rfl

theorem Instant.ofUnix_eq_seconds (now : Nat) (wall expiry : Int) :
    Instant.ofUnix now wall expiry =
      now + Span.ofSeconds (min (max (expiry - wall) 0) 31536000).toNat := by
  rw [Instant.ofUnix_eq]
  unfold Span.maxLifetime Span.ofSeconds
  omega

theorem FiniteClock.forall_ofUnix_eq_iff {c : FiniteClock} {now : Nat} (hn : c.Shows now) :
    (∀ wall expiry : Int64,
        c.ofUnix now wall expiry = Instant.ofUnix now wall.toInt expiry.toInt) ↔
      now + Span.maxLifetime ≤ c.last := by
  refine ⟨fun same => ?_, fun goes_on wall expiry => ?_⟩
  · have year : Span.ofSeconds (Word.secondsUntil 0 31536000).toNat = Span.maxLifetime := by decide
    have due := same 0 31536000
    rw [Instant.ofUnix_eq_after, ofUnix, year, after_eq_iff hn, Instant.after, Nat.min_self] at due
    exact due
  · rw [Instant.ofUnix_eq_after]
    exact after_eq goes_on _

/-! ## Readers -/

namespace Token

/-- What is read of a token that ends at an instant. -/
structure EndsAt (token : Token) (due : Nat) : Prop where
  expiresAt_eq : token.expiresAt = due
  expiresIn_eq : ∀ t : Nat, (token.expiresIn t : Int) = max ((due : Int) - t) 0
  isExpired_iff : ∀ t, token.isExpired t = true ↔ token.expiresIn t = 0
  /-- Whoever holds the resource, and whatever else there is in the world. -/
  valid_iff : ∀ object env,
    ((token.toResource object).validity.check env).1 = true ↔ token.isExpired env.now = false
  stays_expired : ∀ t t', t ≤ t' → token.isExpired t = true → token.isExpired t' = true

theorem endsAt_iff {token : Token} {due : Nat} : token.EndsAt due ↔ token.expiresAt = due := by
  refine ⟨EndsAt.expiresAt_eq, ?_⟩
  rintro rfl
  refine ⟨rfl, fun t => ?_, fun t => isExpired_iff_expiresIn, fun object env => ?_,
    fun t t' later => isExpired_mono later⟩
  · unfold expiresIn Instant.remaining
    omega
  · rw [← Bool.not_eq_true, isExpired_iff, Nat.not_le]
    exact Validity.check_expiresAt

/-- A token ends when it is said to, at a second or after a lifetime, but within a year.

The seconds that are left are the true difference, and none where that is negative.  The words of a
machine count as many, up to the greatest with a sign, and that is far beyond the year.  A clock
that shows the present shows the expiry, whatever second or lifetime is given, and it shows the
right one for all of them exactly if it goes on for the year.

The three readers agree on the expiry, at that very instant as at all others: there is no time left
exactly if the token has expired, its resource may be served exactly if it has not, and what has
expired stays so. -/
theorem expiry_exact (now : Nat) (value : String) :
    (∀ wall expiry : Int64,
      let due := now + Span.ofSeconds (min (max (expiry.toInt - wall.toInt) 0) 31536000).toNat
      Instant.ofUnix now wall.toInt expiry.toInt = due ∧
      Instant.after now (Span.ofSeconds (Word.secondsUntil wall expiry).toNat) = due ∧
      ((Word.secondsUntil wall expiry).toNat : Int) =
        min (max (expiry.toInt - wall.toInt) 0) Int64.maxValue.toInt ∧
      (ofUnixExpiry now wall.toInt value expiry.toInt).EndsAt due) ∧
    (∀ lifetime,
      let due := now + min lifetime (Span.ofSeconds 31536000)
      Instant.after now lifetime = due ∧ (expiringIn now value lifetime).EndsAt due) ∧
    ∀ c : FiniteClock, c.Shows now →
      (∀ wall expiry : Int64, c.Shows (c.ofUnix now wall expiry)) ∧
      (∀ lifetime, c.Shows (c.after now lifetime)) ∧
      ((∀ wall expiry : Int64,
          c.ofUnix now wall expiry = Instant.ofUnix now wall.toInt expiry.toInt) ↔
        now + Span.ofSeconds 31536000 ≤ c.last) ∧
      ((∀ lifetime, c.after now lifetime = Instant.after now lifetime) ↔
        now + Span.ofSeconds 31536000 ≤ c.last) := by
  refine ⟨fun wall expiry => ?_, fun lifetime => ⟨rfl, endsAt_iff.2 rfl⟩, fun c shows =>
    ⟨fun _ _ => FiniteClock.after_shows shows _, FiniteClock.after_shows shows,
      FiniteClock.forall_ofUnix_eq_iff shows, FiniteClock.forall_after_eq_iff shows⟩⟩
  have due := Instant.ofUnix_eq_seconds now wall.toInt expiry.toInt
  have seconds := Word.toNat_secondsUntil wall expiry
  refine ⟨due, (Instant.ofUnix_eq_after now wall expiry).symm.trans due, ?_, endsAt_iff.2 due⟩
  unfold Instant.saturate at seconds
  rw [Int64.toInt_maxValue]
  omega

/-- From the first second to the last it is more than a word can hold.  The token has a year, to the
nanosecond. -/
theorem expiry_exact_farthest :
    let token := ofUnixExpiry 5 Int64.minValue.toInt "token" Int64.maxValue.toInt
    FiniteClock.wide.Shows 5 ∧ 5 + Span.ofSeconds 31536000 ≤ FiniteClock.wide.last ∧
      Int64.maxValue.toInt < Int64.maxValue.toInt - Int64.minValue.toInt ∧
      FiniteClock.wide.ofUnix 5 Int64.minValue Int64.maxValue = 31536000000000005 ∧
      token.expiresIn 31536000000000004 = 1 ∧
      ((token.toResource 0).validity.check (Surroundings.start.pass 31536000000000004)).1 = true ∧
      token.isExpired 31536000000000005 = true ∧ token.isExpired 31536000000000006 = true := by
  intro token
  have shows : FiniteClock.wide.Shows 5 := by decide
  have goes_on : 5 + Span.ofSeconds 31536000 ≤ FiniteClock.wide.last := by decide
  have year : 5 + Span.ofSeconds
      (min (max (Int64.maxValue.toInt - Int64.minValue.toInt) 0) 31536000).toNat =
        31536000000000005 := by decide
  obtain ⟨seconds, -, clocks⟩ := expiry_exact 5 "token"
  obtain ⟨instant, -, -, read⟩ := seconds Int64.minValue Int64.maxValue
  obtain ⟨-, -, same, -⟩ := clocks FiniteClock.wide shows
  rw [year] at instant read
  have ends : token.EndsAt 31536000000000005 := read
  have nanosecond : token.expiresIn 31536000000000004 = 1 := by
    have left := ends.expiresIn_eq 31536000000000004
    omega
  have alive : token.isExpired 31536000000000004 = false := by
    rw [← Bool.not_eq_true, ends.isExpired_iff, nanosecond]
    decide
  have expired : token.isExpired 31536000000000005 = true := by
    have left := ends.expiresIn_eq 31536000000000005
    rw [ends.isExpired_iff]
    omega
  exact ⟨shows, goes_on, by decide, (same.2 goes_on _ _).trans instant, nanosecond,
    (ends.valid_iff 0 _).2 alive, expired, ends.stays_expired _ _ (by decide) expired⟩

end Token
end SingleFlight
