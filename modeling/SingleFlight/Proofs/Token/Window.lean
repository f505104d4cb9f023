import SingleFlight.Token.Window

/-!
What the refresh window makes of a validity.

A token that comes through the window is valid until it should be replaced.  That is before it
expires, so a token that is found valid has not expired.  But the rule that the token came with is
gone: it is replaced, and not combined with the new one.

So the window is sound for a rule that says yes for as long as the new one does, and for no other.
`Validity.Covers` says which rules do, and `windowed_valid` puts the two together.
-/

namespace SingleFlight

namespace Validity

/-- From `now` on and before `due` the rule says yes, whatever else there is in the world. -/
def Covers (v : Validity) (now due : Nat) : Prop :=
  ∀ env : Surroundings, now ≤ env.now → env.now < due → (v.check env).1 = true

variable {now due : Nat}

theorem covers_of_le (v : Validity) (h : due ≤ now) : v.Covers now due := by
  intro env from_now before
  omega

theorem covers_permanent : permanent.Covers now due := fun _ _ _ => rfl

theorem covers_expiresAt_iff {expiry : Nat} :
    (expiresAt expiry).Covers now due ↔ due ≤ now ∨ due ≤ expiry := by
  constructor
  · intro covers
    -- Were there a time after the expiry and before the end of the span, it would be no.
    let late : Surroundings := { Surroundings.start with now := max now expiry }
    rcases Nat.lt_or_ge late.now due with before | passed
    · have valid : max now expiry < expiry :=
        check_expiresAt.1 (covers late (Nat.le_max_left _ _) before)
      omega
    · have after : due ≤ max now expiry := passed
      omega
  · rintro (passed | outlives)
    · exact covers_of_le _ passed
    · intro env _ before
      exact check_expiresAt.2 (Nat.lt_of_lt_of_le before outlives)

/-- A flag may have been lowered when the span begins. -/
theorem covers_flag_iff {name : String} : (flag name).Covers now due ↔ due ≤ now := by
  refine ⟨fun covers => Nat.le_of_not_lt fun early => ?_, covers_of_le _⟩
  have holds := covers { Surroundings.start with now := now, lowered := [name] } (Nat.le_refl _)
    early
  simp [check, Surroundings.holds] at holds

/-- A tape may have come to a no. -/
theorem covers_tape_iff {index : Nat} : (tape index).Covers now due ↔ due ≤ now := by
  refine ⟨fun covers => Nat.le_of_not_lt fun early => ?_, covers_of_le _⟩
  have answer := covers
    { Surroundings.start with now := now, tapes := List.replicate index [] ++ [[false]] }
    (Nat.le_refl _) early
  simp [check, Surroundings.readTape] at answer

theorem covers_iff {v : Validity} : v.Covers now due ↔
    due ≤ now ∨ v = permanent ∨ ∃ expiry, v = expiresAt expiry ∧ due ≤ expiry := by
  cases v with
  | permanent => exact iff_of_true covers_permanent (.inr (.inl rfl))
  | expiresAt expiry => simp [covers_expiresAt_iff]
  | flag name => simp [covers_flag_iff]
  | tape index => simp [covers_tape_iff]

end Validity

namespace Token

variable {now lead : Nat} {r r' : Resource Token}

/-- What comes through the window was alive, and is the resource that came in under another rule. -/
theorem windowed_ok (h : windowed now lead (.returned (.ok r)) = .returned (.ok r')) :
    now < r.value.expiresAt ∧ r' = untilRefresh now r lead := by
  have accepted : accept now lead r = .ok r' := by simpa [windowed] using h
  unfold accept at accepted
  split at accepted
  · cases accepted
  · rename_i alive
    rw [isExpired_iff] at alive
    exact ⟨by omega, by simpa using accepted.symm⟩

/-- The window keeps the value, the object that holds it and whether it is sensitive, and from the
fetch on a resource that is found valid has a token that has not expired.  It is then also valid by
the rule that it came with exactly if this rule is for ever, or ends no earlier than the token
should be replaced, or the token should be replaced at once. -/
theorem windowed_valid (h : windowed now lead (.returned (.ok r)) = .returned (.ok r')) :
    (r'.value = r.value ∧ r'.shares r = true ∧ r'.sensitive = r.sensitive) ∧
    (∀ env, now ≤ env.now → (r'.validity.check env).1 = true →
      r.value.isExpired env.now = false) ∧
    ((∀ env, now ≤ env.now → (r'.validity.check env).1 = true →
        (r.validity.check env).1 = true) ↔
      refreshInstant now r.value.expiresAt lead ≤ now ∨ r.validity = .permanent ∨
        ∃ expiry, r.validity = .expiresAt expiry ∧
          refreshInstant now r.value.expiresAt lead ≤ expiry) := by
  obtain ⟨alive, rfl⟩ := windowed_ok h
  have valid_iff : ∀ env, ((untilRefresh now r lead).validity.check env).1 = true ↔
      env.now < refreshInstant now r.value.expiresAt lead := fun _ => Validity.check_expiresAt
  refine ⟨⟨rfl, r.revalidated_shares _, rfl⟩, fun env _ valid => ?_, ?_⟩
  · have bound : refreshInstant now r.value.expiresAt lead ≤ r.value.expiresAt :=
      refreshInstant_le (Nat.le_of_lt alive)
    have before := (valid_iff env).1 valid
    simp only [isExpired, decide_eq_false_iff_not]
    omega
  · simp only [valid_iff]
    exact Validity.covers_iff

/-- A token of a minute whose resource is valid for fifty seconds comes through a window of ten
seconds, and loses nothing. -/
theorem windowed_valid_covered : ∃ r r' : Resource Token,
    windowed 0 10 (.returned (.ok r)) = .returned (.ok r') ∧ r.validity = .expiresAt 50 ∧
      ∀ env, 0 ≤ env.now → (r'.validity.check env).1 = true → (r.validity.check env).1 = true := by
  let r : Resource Token := ⟨⟨"token", 60⟩, 0, .expiresAt 50, true⟩
  have through : windowed 0 10 (.returned (.ok r)) = .returned (.ok (untilRefresh 0 r 10)) := rfl
  exact ⟨r, _, through, rfl,
    (windowed_valid through).2.2.2 (.inr (.inr ⟨50, rfl, by decide⟩))⟩

/-- Not every rule is kept: the resource of this token is valid for twenty seconds, and after the
window for fifty. -/
theorem windowed_outlives_validity :
    ¬ ∀ (now lead : Nat) (r r' : Resource Token) (env : Surroundings),
      windowed now lead (.returned (.ok r)) = .returned (.ok r') → now ≤ env.now →
      (r'.validity.check env).1 = true →
      (r.validity.check env).1 = true ∧ r.value.isExpired env.now = false := by
  intro bounded
  let r : Resource Token := ⟨⟨"token", 60⟩, 0, .expiresAt 20, true⟩
  have valid := (bounded 0 10 r (untilRefresh 0 r 10) (Surroundings.start.pass 30) rfl
    (Nat.zero_le _) rfl).1
  exact absurd valid (by decide)

end Token
end SingleFlight
