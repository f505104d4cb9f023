import SingleFlight.Log.Writer
import SingleFlight.Metrics.Exposition
import SingleFlight.Retry
import SingleFlight.Text.Blank
import SingleFlight.Text.LowerCase

/-!
Settings of a program that embeds the caches, and the rules that they must obey.

`Settings.issues` finds every rule that is broken, in a fixed order; no broken rule hides another.
-/

namespace SingleFlight

structure TokenCacheSettings where
  /-- How many seconds ahead of its expiry a token is refreshed. -/
  leadSeconds : Nat := 60
  backoff : Backoff := { base := 1000, limit := 30000 }
deriving DecidableEq, Repr

/-- How far ahead of its expiry a token is refreshed. -/
def TokenCacheSettings.lead (s : TokenCacheSettings) : Nat := Span.ofSeconds s.leadSeconds

/-- A single attempt, and the backoff. -/
def TokenCacheSettings.retry (s : TokenCacheSettings) : Retry.Policy := .make 1 s.backoff

structure LoggingSettings where
  level : String := "info"
  format : Log.Format := .compact
deriving DecidableEq, Repr

/-- The writer that settings describe.  A level that is given apart wins over theirs. -/
def LoggingSettings.writer (s : LoggingSettings) (override : Option Log.Level) : Log.Writer :=
  let level := match override with
    | some level => level.name
    | none => s.level
  { filter := Log.Filter.ofText level, format := s.format }

structure MetricsSettings where
  isEnabled : Bool := false
  /-- What the names of the measurements start with. -/
  space : String := "resource_cache"
deriving DecidableEq, Repr

/-- The registry that is made, if one is to be made, or why it cannot be made. -/
def MetricsSettings.registry? (s : MetricsSettings) : Except String (Option Metrics.Registry) :=
  if s.isEnabled then (Metrics.open? s.space).map some else .ok none

structure Settings where
  tokenCache : TokenCacheSettings := {}
  logging : LoggingSettings := {}
  metrics : MetricsSettings := {}
deriving DecidableEq, Repr

namespace Settings

/-- A broken rule. -/
inductive Issue where
  | leadIsZero
  | baseIsZero
  | limitBelowBase (limit base : Nat)
  | blankNamespace
  /-- The level in lower case. -/
  | unknownLevel (level : String)
deriving DecidableEq, Repr

def Issue.message : Issue → String
  | leadIsZero => "token_cache.lead_time_seconds must be > 0"
  | baseIsZero => "token_cache.retry.base_delay_ms must be > 0"
  | limitBelowBase limit base =>
    "token_cache.retry.max_delay_ms (" ++ toString limit ++ ") must be >= base_delay_ms (" ++
      toString base ++ ")"
  | blankNamespace => "metrics.namespace must not be empty when metrics are enabled"
  | unknownLevel level =>
    "logging.level '" ++ level ++ "' is invalid; allowed: trace, debug, info, warn, error"

def issues (s : Settings) : List Issue :=
  let backoff := s.tokenCache.backoff
  let level := Text.lowerCase s.logging.level
  (if s.tokenCache.leadSeconds = 0 then [.leadIsZero] else []) ++
    (if backoff.base = 0 then [.baseIsZero] else []) ++
    (if backoff.limit < backoff.base then [.limitBelowBase backoff.limit backoff.base] else []) ++
    (if s.metrics.isEnabled && Text.isBlankText s.metrics.space then [.blankNamespace] else []) ++
    (if (Log.Level.named? level).isSome then [] else [.unknownLevel level])

/-- Every broken rule, or nothing to complain about. -/
def validate (s : Settings) : Except (List Issue) Unit :=
  match s.issues with
  | [] => .ok ()
  | issues => .error issues

/-- The one error that tells of all broken rules. -/
def invalid (issues : List Issue) : ResourceError :=
  .configuration ("; ".intercalate (issues.map Issue.message))

/-- The part of the program that writes the records. -/
def target : String := "resource_cache::config::loader"

/-- What is logged when settings are validated. -/
def records (s : Settings) : List Log.Record :=
  s.issues.map fun issue =>
    { level := .error, target := target, message := "settings validation: " ++ issue.message
      fields := [] }

end Settings
end SingleFlight
