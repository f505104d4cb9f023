import SingleFlight.Proofs.FiniteClock
import SingleFlight.Proofs.Settings.Rules

/-!
How long a wait is.

Waits are worked out here in numbers without end.  A machine has words of 64 bits, in which a
product stops at the greatest one and a shift must stay below the width; `Backoff.word?` is the wait
as it works it out, and is the same.  Neither the stop nor the end of the doubling after 32 steps
ever shows in a wait that has reached the limit, so a wait is the smaller of the limit and a base
that has doubled at most 32 times.
-/

namespace SingleFlight

/-! ## Words -/

namespace Word

/-- The greatest word of 64 bits. -/
def last : UInt64 := 18446744073709551615

/-- The product, or the greatest word if it does not fit. -/
def mulHeld (a b : UInt64) : UInt64 := if a.toNat * b.toNat ≤ last.toNat then a * b else last

/-- A word shifted to the left.  There is no shift by the width of the word or more. -/
def shiftLeft? (w : UInt64) (n : UInt32) : Option UInt64 :=
  if n < 64 then some (w <<< n.toUInt64) else none

/-- The difference, or zero. -/
def subHeld (a b : UInt32) : UInt32 := if b ≤ a then a - b else 0

theorem toNat_mulHeld (a b : UInt64) : (mulHeld a b).toNat = min (a.toNat * b.toNat) last.toNat := by
  have width : last.toNat = 2 ^ 64 - 1 := rfl
  unfold mulHeld
  split
  · rename_i fits
    rw [UInt64.toNat_mul, Nat.mod_eq_of_lt (by omega), Nat.min_eq_left fits]
  · rename_i overflows
    rw [Nat.min_eq_right (by omega)]

theorem toNat_subHeld (a b : UInt32) : (subHeld a b).toNat = a.toNat - b.toNat := by
  unfold subHeld
  split
  · rename_i le
    exact UInt32.toNat_sub_of_le _ _ le
  · rename_i gt
    have lt := UInt32.lt_iff_toNat_lt.1 (UInt32.not_le.1 gt)
    rw [UInt32.toNat_zero]
    omega

/-- No bit of a power is lost. -/
theorem toNat_shiftLeft_one {n : UInt32} (h : n.toNat < 64) :
    ((1 : UInt64) <<< n.toUInt64).toNat = 2 ^ n.toNat := by
  have small : 2 ^ n.toNat < 2 ^ 64 := Nat.pow_lt_pow_right (by decide) h
  rw [UInt64.toNat_shiftLeft, UInt32.toNat_toUInt64, Nat.mod_eq_of_lt h, UInt64.toNat_one,
    Nat.shiftLeft_eq, Nat.one_mul, Nat.mod_eq_of_lt small]

end Word

namespace Backoff

/-- The base and the limit that a machine is given. -/
def ofWords (base limit : UInt64) : Backoff := ⟨base.toNat, limit.toNat⟩

/-- The wait after an attempt as a machine works it out, if its shift is one. -/
def word? (base limit : UInt64) (attempt : UInt32) : Option UInt64 :=
  (Word.shiftLeft? 1 (min (Word.subHeld attempt 1) 32)).map fun factor =>
    min (Word.mulHeld base factor) limit

variable {b : Backoff}

/-- A limit that is a word hides where products stop. -/
theorem millis_eq (h : b.limit ≤ ceiling) (n : Nat) :
    b.millis n = min b.limit (b.base * 2 ^ doublings n) := by
  have power : Nat.pow 2 (doublings n) = 2 ^ doublings n := rfl
  rw [millis, power]
  omega

theorem millis_mono {m n : Nat} (h : m ≤ n) : b.millis m ≤ b.millis n := by
  have grows : b.base * Nat.pow 2 (doublings m) ≤ b.base * Nat.pow 2 (doublings n) :=
    Nat.mul_le_mul_left _ (Nat.pow_le_pow_right (by decide) (doublings_mono h))
  unfold millis
  omega

theorem base_le_doubled (b : Backoff) (n : Nat) : b.base ≤ b.base * Nat.pow 2 (doublings n) :=
  Nat.le_mul_of_pos_right _ (Nat.pow_pos (by decide))

/-- No wait is shorter than the base, where the base is no more than the limit. -/
theorem base_le_millis (ordered : b.base ≤ b.limit) (h : b.limit ≤ ceiling) (n : Nat) :
    b.base ≤ b.millis n := by
  have grows := b.base_le_doubled n
  unfold millis
  omega

theorem millis_pos (positive : 0 < b.base) (ordered : b.base ≤ b.limit) (n : Nat) :
    0 < b.millis n := by
  have grows := b.base_le_doubled n
  unfold millis ceiling
  omega

/-- No wait is shorter than the base, as far as a wait goes. -/
theorem base_le_delay (ordered : b.base ≤ b.limit) (n : Nat) :
    min (Span.ofMillis b.base) Span.maxLifetime ≤ min (b.delay n) Span.maxLifetime := by
  have grows := b.base_le_doubled n
  -- A product that is cut is far beyond a year.
  unfold delay millis ceiling Span.ofMillis Span.maxLifetime Span.ofSeconds
  omega

/-- The doubling goes on for as long as it shows. -/
theorem millis_eq_doubled_iff (h : b.limit ≤ ceiling) {n : Nat} (hn : 1 ≤ n) :
    b.millis n = min b.limit (b.base * 2 ^ (n - 1)) ↔
      n ≤ 33 ∨ b.base = 0 ∨ b.limit ≤ b.base * 2 ^ 32 := by
  rw [millis_eq h]
  rcases Nat.lt_or_ge 33 n with late | early
  · have ended : doublings n = 32 := by unfold doublings; omega
    have twice : b.base * 2 ^ 32 * 2 ≤ b.base * 2 ^ (n - 1) := by
      rw [Nat.mul_assoc, ← Nat.pow_succ]
      exact Nat.mul_le_mul_left _ (Nat.pow_le_pow_right (by decide) (by omega))
    rw [ended]
    constructor
    · intro same
      omega
    · rintro (early | nothing | reached)
      · omega
      · simp [nothing]
      · omega
  · have same : doublings n = n - 1 := by unfold doublings; omega
    simp [same, early]

theorem word?_eq (base limit : UInt64) (attempt : UInt32) : ∃ w,
    word? base limit attempt = some w ∧ w.toNat = (ofWords base limit).millis attempt.toNat := by
  have steps : (min (Word.subHeld attempt 1) 32).toNat = doublings attempt.toNat := by
    rw [UInt32.toNat_min, Word.toNat_subHeld, UInt32.toNat_one]
    rfl
  have few : doublings attempt.toNat < 64 := by unfold doublings; omega
  have shifts : min (Word.subHeld attempt 1) 32 < 64 := UInt32.lt_iff_toNat_lt.2 (steps ▸ few)
  refine ⟨_, by rw [word?, Word.shiftLeft?, if_pos shifts, Option.map_some], ?_⟩
  rw [UInt64.toNat_min, Word.toNat_mulHeld, Word.toNat_shiftLeft_one (steps ▸ few), steps]
  rfl

/-- The wait after an attempt is the smaller of the limit and the base, doubled for each attempt
before but at most 32 times.  A machine works it out without a shift that it does not have, and the
wait is a span.  Waits do not shrink from one attempt to a later one and never exceed the limit, nor
do they fall short of the base if the settings are valid.

Without an end of the doubling the wait would be another one only after the 33rd attempt, and only
if the base is not zero and 32 doublings do not take it to the limit. -/
theorem delay_doubles_until_limit (base limit : UInt64) (n : UInt32) :
    (∃ w, word? base limit n = some w ∧ w.toNat = (ofWords base limit).millis n.toNat) ∧
    (ofWords base limit).delay n.toNat =
      Span.ofMillis (min limit.toNat (base.toNat * 2 ^ min (n.toNat - 1) 32)) ∧
    (ofWords base limit).delay n.toNat ≤ Span.longest ∧
    (∀ m ≤ n.toNat, (ofWords base limit).delay m ≤ (ofWords base limit).delay n.toNat) ∧
    (ofWords base limit).delay n.toNat ≤ Span.ofMillis limit.toNat ∧
    (∀ s : Settings, s.validate = .ok () → s.tokenCache.backoff = ofWords base limit →
      1 ≤ base.toNat ∧ Span.ofMillis base.toNat ≤ (ofWords base limit).delay n.toNat) ∧
    (1 ≤ n.toNat →
      ((ofWords base limit).delay n.toNat =
          Span.ofMillis (min limit.toNat (base.toNat * 2 ^ (n.toNat - 1))) ↔
        n.toNat ≤ 33 ∨ base = 0 ∨ limit.toNat ≤ base.toNat * 2 ^ 32)) := by
  have small : (ofWords base limit).limit ≤ ceiling := Nat.le_of_lt_succ limit.toNat_lt
  have wait := millis_eq small n.toNat
  refine ⟨word?_eq base limit n, congrArg Span.ofMillis wait, ?_, ?_, ?_, ?_, ?_⟩
  · have bound := millis_le_limit (ofWords base limit) n.toNat
    unfold delay Span.ofMillis Span.longest Span.ofSeconds
    unfold ceiling at small
    omega
  · intro m hm
    exact Nat.mul_le_mul_right _ (millis_mono hm)
  · exact Nat.mul_le_mul_right _ (millis_le_limit _ _)
  · intro s valid given
    obtain ⟨positive, ordered⟩ := Settings.backoff_of_validate valid
    rw [given] at positive ordered
    exact ⟨positive, Nat.mul_le_mul_right _ (base_le_millis ordered small _)⟩
  · intro hn
    have zero : base = 0 ↔ (ofWords base limit).base = 0 := UInt64.toNat_inj.symm
    rw [zero, delay, Span.ofMillis, Span.ofMillis, Nat.mul_left_inj (by decide)]
    exact millis_eq_doubled_iff small hn

/-- Settings may allow so long a wait that the end of the doubling shows. -/
def patient : Settings := { tokenCache := { backoff := ofWords 1000 Word.last } }

/-- After the 34th attempt the wait is as long as after the 33rd. -/
theorem delay_doubles_until_limit_patient :
    patient.validate = .ok () ∧
      (ofWords 1000 Word.last).delay 34 = Span.ofMillis (1000 * 2 ^ 32) ∧
      (ofWords 1000 Word.last).delay 33 ≤ (ofWords 1000 Word.last).delay 34 ∧
      Span.ofMillis 1000 ≤ (ofWords 1000 Word.last).delay 34 ∧
      (ofWords 1000 Word.last).delay 34 ≠
        Span.ofMillis (min Word.last.toNat (1000 * 2 ^ 33)) := by
  have valid : patient.validate = .ok () := by decide +kernel
  obtain ⟨-, wait, -, mono, -, settled, doubled⟩ := delay_doubles_until_limit 1000 Word.last 34
  refine ⟨valid, wait, mono 33 (by decide), (settled patient valid rfl).2, fun same => ?_⟩
  exact absurd ((doubled (by decide)).1 same) (by decide)

end Backoff
end SingleFlight
