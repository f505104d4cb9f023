import SingleFlight.Proofs.Text.Natural
import SingleFlight.Settings

/-!
The rules that settings obey.

`Rule` lists them in the order in which broken ones are told, and `Rule.Obeyed` says what each of
them asks.  Validation finds the broken rules, each of them and nothing else (`validate_eq`).  What
is told of a broken rule begins with the name of the field that the rule is about, and so tells
which rule it is (`Rule.eq_of_message`).
-/

namespace SingleFlight

/-- A text is blank if nothing is left of it without the blanks at its ends. -/
theorem Text.isBlankText_iff {s : String} : isBlankText s = true ↔ trim s = "" := by
  rw [isBlankText, List.all_eq_true]
  constructor
  · intro blank
    have front : dropBlanks (s.toList ++ []) = [] := dropBlanks_append blank nofun
    rw [List.append_nil] at front
    rw [trim, front]
    rfl
  · intro nothing
    obtain ⟨before, after, whole, hbefore, hafter⟩ := exists_blanks s
    rw [nothing, String.toList_empty, List.append_nil] at whole
    intro c mem
    rw [whole, List.mem_append] at mem
    exact mem.elim (hbefore c) (hafter c)

theorem Log.Level.isSome_named?_iff {name : String} :
    (named? name).isSome = true ↔ name ∈ all.map lowerName := by
  simp [named?, List.find?_isSome, List.mem_map]

namespace Settings

inductive Rule where
  | lead
  | base
  | limit
  | space
  | level
deriving DecidableEq, Repr

namespace Rule

/-- In the order in which broken rules are told. -/
def all : List Rule := [lead, base, limit, space, level]

theorem mem_all (r : Rule) : r ∈ all := by
  cases r <;> decide

/-- The field that the rule is about. -/
def field : Rule → String
  | lead => "token_cache.lead_time_seconds"
  | base => "token_cache.retry.base_delay_ms"
  | limit => "token_cache.retry.max_delay_ms"
  | space => "metrics.namespace"
  | level => "logging.level"

theorem eq_of_field_begins {r r' : Rule} (h : r.field.toList <+: r'.field.toList) : r = r' := by
  have distinct : ∀ r ∈ all, ∀ r' ∈ all, r.field.toList <+: r'.field.toList → r = r' := by
    decide +kernel
  exact distinct r (mem_all r) r' (mem_all r') h

variable (s : Settings)

/-- What the rule asks of settings. -/
def Obeyed : Rule → Prop
  | lead => 0 < s.tokenCache.leadSeconds
  | base => 0 < s.tokenCache.backoff.base
  | limit => s.tokenCache.backoff.base ≤ s.tokenCache.backoff.limit
  | space => s.metrics.isEnabled = false ∨ Text.trim s.metrics.space ≠ ""
  | level => Text.lowerCase s.logging.level ∈ ["trace", "debug", "info", "warn", "error"]

instance : ∀ r, Decidable (Obeyed s r)
  | lead => inferInstanceAs (Decidable (0 < s.tokenCache.leadSeconds))
  | base => inferInstanceAs (Decidable (0 < s.tokenCache.backoff.base))
  | limit =>
    inferInstanceAs (Decidable (s.tokenCache.backoff.base ≤ s.tokenCache.backoff.limit))
  | space =>
    inferInstanceAs (Decidable (s.metrics.isEnabled = false ∨ Text.trim s.metrics.space ≠ ""))
  | level => inferInstanceAs (Decidable
      (Text.lowerCase s.logging.level ∈ ["trace", "debug", "info", "warn", "error"]))

/-- What is found where the rule is broken. -/
def issue : Rule → Issue
  | lead => .leadIsZero
  | base => .baseIsZero
  | limit => .limitBelowBase s.tokenCache.backoff.limit s.tokenCache.backoff.base
  | space => .blankNamespace
  | level => .unknownLevel (Text.lowerCase s.logging.level)

/-- What is told where the rule is broken. -/
def message (r : Rule) : String := (r.issue s).message

/-- The broken rules in the order of all rules. -/
def broken : List Rule := all.filter fun r => ¬ Obeyed s r

theorem broken_eq_nil_iff : broken s = [] ↔ ∀ r, Obeyed s r := by
  simp [broken, List.filter_eq_nil_iff, mem_all]

/-- What is told of a rule begins with the field that the rule is about. -/
theorem field_prefix_message (r : Rule) : r.field.toList <+: (r.message s).toList := by
  have grow : ∀ {field text more : String}, field.toList <+: text.toList →
      field.toList <+: (text ++ more).toList := by
    intro field text more begins
    rw [String.toList_append]
    exact begins.trans (List.prefix_append _ _)
  cases r with
  | lead =>
    exact (by decide +kernel :
      lead.field.toList <+: "token_cache.lead_time_seconds must be > 0".toList)
  | base =>
    exact (by decide +kernel :
      base.field.toList <+: "token_cache.retry.base_delay_ms must be > 0".toList)
  | limit =>
    have begins : limit.field.toList <+: "token_cache.retry.max_delay_ms (".toList := by
      decide +kernel
    exact grow (grow (grow (grow begins)))
  | space =>
    exact (by decide +kernel :
      space.field.toList <+:
        "metrics.namespace must not be empty when metrics are enabled".toList)
  | level =>
    have begins : level.field.toList <+: "logging.level '".toList := by decide +kernel
    exact grow (grow begins)

/-- No field's name begins with another's, so what is told of a rule tells which rule it is. -/
theorem eq_of_message {s s' : Settings} {r r' : Rule} (h : r.message s = r'.message s') :
    r = r' := by
  have begins := field_prefix_message s r
  have begins' : r'.field.toList <+: (r.message s).toList := h ▸ field_prefix_message s' r'
  rcases List.prefix_or_prefix_of_prefix begins begins' with shorter | longer
  · exact eq_of_field_begins shorter
  · exact (eq_of_field_begins longer).symm

end Rule

variable (s : Settings)

theorem issues_eq : s.issues = (Rule.broken s).map (Rule.issue s) := by
  have found : ∀ (r : Rule) (rs : List Rule),
      ((r :: rs).filter fun r => ¬ Rule.Obeyed s r).map (Rule.issue s) =
        (if ¬ Rule.Obeyed s r then [r.issue s] else []) ++
          (rs.filter fun r => ¬ Rule.Obeyed s r).map (Rule.issue s) := by
    intro r rs
    by_cases obeyed : Rule.Obeyed s r <;> simp [obeyed]
  have space : (s.metrics.isEnabled && Text.isBlankText s.metrics.space) = true ↔
      ¬ Rule.space.Obeyed s := by
    simp [Rule.Obeyed, Text.isBlankText_iff]
  have level : (Log.Level.named? (Text.lowerCase s.logging.level)).isSome = true ↔
      Rule.level.Obeyed s := Log.Level.isSome_named?_iff
  have lead : s.tokenCache.leadSeconds = 0 ↔ ¬ Rule.lead.Obeyed s := by
    simp [Rule.Obeyed]
  have base : s.tokenCache.backoff.base = 0 ↔ ¬ Rule.base.Obeyed s := by
    simp [Rule.Obeyed]
  have limit : s.tokenCache.backoff.limit < s.tokenCache.backoff.base ↔
      ¬ Rule.limit.Obeyed s := by
    simp [Rule.Obeyed]
  simp only [issues, space, level, lead, base, limit, Rule.broken, Rule.all, found]
  simp [Rule.issue]

/-- Validation finds the broken rules. -/
theorem validate_eq : s.validate =
    if Rule.broken s = [] then .ok () else .error ((Rule.broken s).map (Rule.issue s)) := by
  rw [validate, issues_eq]
  cases Rule.broken s <;> rfl

theorem validate_eq_ok_iff : s.validate = .ok () ↔ ∀ r, Rule.Obeyed s r := by
  rw [validate_eq, ← Rule.broken_eq_nil_iff]
  split <;> simp_all

theorem backoff_of_validate {settings : Settings} (valid : settings.validate = .ok ()) :
    0 < settings.tokenCache.backoff.base ∧
      settings.tokenCache.backoff.base ≤ settings.tokenCache.backoff.limit := by
  have obeyed := (validate_eq_ok_iff settings).1 valid
  exact ⟨obeyed .base, obeyed .limit⟩

end Settings
end SingleFlight
