import SingleFlight.Proofs.Backoff
import SingleFlight.Settings.Reader

/-!
What validation is worth.

Validation answers for every rule, and reading settings from a text answers as validation does, with
one error for all broken rules.  Whoever is given valid settings need not look at them again: the
waits of the backoff lie between a millisecond and the limit, tokens are refreshed ahead of their
expiry, and there is a registry if there is to be one.
-/

namespace SingleFlight

namespace Settings

/-- A text of the right form is read as validation says of its settings. -/
theorem parse_eq (text : String) : parse text =
    match parseForm text with
    | none => .error .malformed
    | some s =>
      if Rule.broken s = [] then .ok s
      else .error (.invalid ((Rule.broken s).map (Rule.issue s))) := by
  unfold parse
  cases parseForm text with
  | none => rfl
  | some s =>
    dsimp only
    rw [validate_eq]
    by_cases valid : Rule.broken s = []
    · rw [if_pos valid, if_pos valid]
    · rw [if_neg valid, if_neg valid]

variable {s : Settings} {text : String}

theorem broken_ne_nil (invalid : s.validate ≠ .ok ()) : Rule.broken s ≠ [] := by
  rwa [Ne, Rule.broken_eq_nil_iff, ← validate_eq_ok_iff]

theorem parse_eq_ok_iff : parse text = .ok s ↔ parseForm text = some s ∧ s.validate = .ok () := by
  rw [parse_eq, validate_eq_ok_iff, ← Rule.broken_eq_nil_iff]
  cases parseForm text with
  | none => simp
  | some s' =>
    by_cases valid : Rule.broken s' = []
    · simp only [valid, if_true, Except.ok.injEq, Option.some.injEq]
      exact ⟨fun same => ⟨same, same ▸ valid⟩, And.left⟩
    · simp only [valid, if_false, reduceCtorEq, Option.some.injEq, false_iff]
      rintro ⟨rfl, nothing⟩
      exact valid nothing

theorem parse_of_broken (form : parseForm text = some s) (invalid : s.validate ≠ .ok ()) :
    parse text = .error (.invalid ((Rule.broken s).map (Rule.issue s))) := by
  rw [parse_eq, form]
  exact if_neg (broken_ne_nil invalid)

theorem map_message : ((Rule.broken s).map (Rule.issue s)).map Issue.message =
    (Rule.broken s).map (Rule.message s) := List.map_map

theorem delay_bounds (valid : s.validate = .ok ()) (n : Nat) :
    Span.ofMillis 1 ≤ s.tokenCache.retry.backoff.delay n ∧
      s.tokenCache.retry.backoff.delay n ≤ Span.ofMillis s.tokenCache.backoff.limit := by
  obtain ⟨positive, ordered⟩ := backoff_of_validate valid
  exact ⟨Nat.mul_le_mul_right _ (Backoff.millis_pos positive ordered n),
    Nat.mul_le_mul_right _ (Backoff.millis_le_limit _ _)⟩

theorem exists_registry (valid : s.validate = .ok ()) :
    ∃ registry, s.metrics.registry? = .ok registry ∧ registry.isSome = s.metrics.isEnabled := by
  have named : s.metrics.isEnabled = false ∨ Text.trim s.metrics.space ≠ "" :=
    (validate_eq_ok_iff s).1 valid .space
  unfold MetricsSettings.registry?
  cases enabled : s.metrics.isEnabled with
  | false => exact ⟨none, rfl, rfl⟩
  | true =>
    have some_text : s.metrics.space.isEmpty = false := by
      rw [enabled] at named
      rw [← Bool.not_eq_true, String.isEmpty_iff]
      rintro nothing
      rw [nothing] at named
      exact absurd named (by decide)
    exact ⟨some {}, by simp [Metrics.open?, some_text, Except.map], rfl⟩

/-- Validation is exact, and enough for all who are given settings.

It accepts the settings that obey every rule.  Of others it tells the broken rules, each of them once
and in the order of all rules, and no two rules in the same words.  A text is read as its settings
if they are valid; if they are not, there is one error, a fault of the configuration that joins what
is told of the broken rules.

With valid settings each wait lasts at least a millisecond and at most as long as the limit, the
lead is not zero, and the registry can be made. -/
theorem validation_exact (s : Settings) :
    (s.validate = .ok () ↔
      0 < s.tokenCache.leadSeconds ∧ 0 < s.tokenCache.backoff.base ∧
      s.tokenCache.backoff.base ≤ s.tokenCache.backoff.limit ∧
      (s.metrics.isEnabled = false ∨ Text.trim s.metrics.space ≠ "") ∧
      Text.lowerCase s.logging.level ∈ ["trace", "debug", "info", "warn", "error"]) ∧
    (s.validate ≠ .ok () → ∃ issues, s.validate = .error issues ∧
      issues.map Issue.message = (Rule.broken s).map (Rule.message s)) ∧
    (∀ r r' : Rule, r.message s = r'.message s → r = r') ∧
    (∀ text,
      (parse text = .ok s ↔ parseForm text = some s ∧ s.validate = .ok ()) ∧
      (parseForm text = some s → s.validate ≠ .ok () → ∃ issues,
        parse text = .error (.invalid issues) ∧
        invalid issues =
          .configuration ("; ".intercalate ((Rule.broken s).map (Rule.message s)))) ∧
      (parseForm text = none → parse text = .error .malformed)) ∧
    (s.validate = .ok () →
      (∀ n, Span.ofMillis 1 ≤ s.tokenCache.retry.backoff.delay n ∧
        s.tokenCache.retry.backoff.delay n ≤ Span.ofMillis s.tokenCache.backoff.limit) ∧
      0 < s.tokenCache.lead ∧
      ∃ registry, s.metrics.registry? = .ok registry ∧
        registry.isSome = s.metrics.isEnabled) := by
  refine ⟨?_, fun invalid => ?_, fun r r' => Rule.eq_of_message, fun text => ⟨parse_eq_ok_iff,
    fun form invalid => ?_, fun malformed => ?_⟩, fun valid => ?_⟩
  · rw [validate_eq_ok_iff]
    constructor
    · intro obeyed
      exact ⟨obeyed .lead, obeyed .base, obeyed .limit, obeyed .space, obeyed .level⟩
    · rintro ⟨lead, base, limit, space, level⟩ r
      cases r <;> assumption
  · exact ⟨_, (validate_eq s).trans (if_neg (broken_ne_nil invalid)), map_message⟩
  · refine ⟨_, parse_of_broken form invalid, ?_⟩
    rw [Settings.invalid, map_message]
  · rw [parse_eq, malformed]
  · have lead : 0 < s.tokenCache.leadSeconds := (validate_eq_ok_iff s).1 valid .lead
    exact ⟨delay_bounds valid, Nat.mul_pos lead (by decide), exists_registry valid⟩

/-- A lead of nothing, a limit below the base, a blank namespace, and a level that there is not. -/
def sloppy : Settings where
  tokenCache := { leadSeconds := 0, backoff := { base := 5, limit := 3 } }
  logging := { level := "Loud" }
  metrics := { isEnabled := true, space := " " }

def sloppyText : String :=
  "token_cache:\n  lead_time_seconds: 0\n  retry:\n    base_delay_ms: 5\n    max_delay_ms: 3\n" ++
    "logging:\n  level: Loud\nmetrics:\n  is_enabled: true\n  namespace: ' '\n"

def sloppyMessages : List String :=
  ["token_cache.lead_time_seconds must be > 0",
    "token_cache.retry.max_delay_ms (3) must be >= base_delay_ms (5)",
    "metrics.namespace must not be empty when metrics are enabled",
    "logging.level 'loud' is invalid; allowed: trace, debug, info, warn, error"]

/-- Four rules are broken, and all of them are told; the settings of an empty text are valid. -/
theorem validation_exact_sloppy :
    (∃ issues, sloppy.validate = .error issues ∧ issues.map Issue.message = sloppyMessages) ∧
      (∃ issues, parse sloppyText = .error (.invalid issues) ∧
        invalid issues = .configuration ("; ".intercalate sloppyMessages)) ∧
      parse "[" = .error .malformed ∧
      parse "" = .ok {} ∧ Span.ofMillis 1 ≤ ({} : Settings).tokenCache.retry.backoff.delay 1 := by
  have invalid : sloppy.validate ≠ .ok () := by decide +kernel
  have form : parseForm sloppyText = some sloppy := by decide +kernel
  have messages : (Rule.broken sloppy).map (Rule.message sloppy) = sloppyMessages := by
    decide +kernel
  have valid : ({} : Settings).validate = .ok () := by decide +kernel
  obtain ⟨-, told, -, read, -⟩ := validation_exact sloppy
  obtain ⟨-, -, -, readEmpty, enough⟩ := validation_exact {}
  exact ⟨messages ▸ told invalid, messages ▸ (read sloppyText).2.1 form invalid,
    (read "[").2.2 (by decide +kernel), (readEmpty "").1.2 ⟨by decide +kernel, valid⟩,
    ((enough valid).1 1).1⟩

end Settings
end SingleFlight
