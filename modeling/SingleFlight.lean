import SingleFlight.Backoff
import SingleFlight.Base64Url
import SingleFlight.Cache
import SingleFlight.Decimal.Shortest
import SingleFlight.Failure
import SingleFlight.Http
import SingleFlight.Http.Method
import SingleFlight.Http.Status
import SingleFlight.Json
import SingleFlight.Json.Tree
import SingleFlight.Log
import SingleFlight.Log.Filter
import SingleFlight.Log.Writer
import SingleFlight.Metrics
import SingleFlight.Metrics.Exposition
import SingleFlight.Parameter
import SingleFlight.Parameter.Set
import SingleFlight.Parameter.Value
import SingleFlight.Resource
import SingleFlight.Retry
import SingleFlight.Settings
import SingleFlight.Settings.Reader
import SingleFlight.Simulation.Endpoint
import SingleFlight.Simulation.Requests
import SingleFlight.Simulation.Script
import SingleFlight.Simulation.Tokens
import SingleFlight.Source
import SingleFlight.Stack
import SingleFlight.Table
import SingleFlight.Text.Alphanumeric
import SingleFlight.Text.Blank
import SingleFlight.Text.Cased
import SingleFlight.Text.Extending
import SingleFlight.Text.LowerCase
import SingleFlight.Text.Natural
import SingleFlight.Text.Outline
import SingleFlight.Text.Quoted
import SingleFlight.Text.Ranges
import SingleFlight.Text.Unprintable
import SingleFlight.Time
import SingleFlight.Token
import SingleFlight.Token.Jwt
import SingleFlight.Token.Window
import SingleFlight.TokenCache
import SingleFlight.Validity
import SingleFlight.Yaml.Cursor
import SingleFlight.Yaml.Node
import SingleFlight.Yaml.Scalar
import SingleFlight.Yaml.Token
import SingleFlight.Proofs.Run
import SingleFlight.Proofs.Cache.Transition
import SingleFlight.Proofs.Cache.Rounds
import SingleFlight.Proofs.Cache.Answers
import SingleFlight.Proofs.Cache.Origins
import SingleFlight.Proofs.Cache.Course
import SingleFlight.Proofs.Cache.Progress
import SingleFlight.Proofs.TokenCache.Transition
import SingleFlight.Proofs.TokenCache.Freshness
import SingleFlight.Proofs.TokenCache.Tasks
import SingleFlight.Proofs.TokenCache.Timers
import SingleFlight.Proofs.TokenCache.Arming
import SingleFlight.Proofs.TokenCache.Installs
import SingleFlight.Proofs.TokenCache.Line
import SingleFlight.Proofs.TokenCache.Readers
import SingleFlight.Proofs.TokenCache.Forward
import SingleFlight.Proofs.Cache.Memo
import SingleFlight.Proofs.Cache.Isolation
import SingleFlight.Proofs.Stack.Single
import SingleFlight.Proofs.Stack.Layers
import SingleFlight.Proofs.Stack.Composition
import SingleFlight.Proofs.Measurements
import SingleFlight.Proofs.TokenCache.Bookkeeping
import SingleFlight.Proofs.Cache.Balance
import SingleFlight.Proofs.Parameter.Agreement
import SingleFlight.Proofs.Parameter.Builds
import SingleFlight.Proofs.Redaction
import SingleFlight.Proofs.TokenCache.Guarded
import SingleFlight.Proofs.Token.Window
import SingleFlight.Proofs.Cache.Sole
import SingleFlight.Proofs.TokenCache.Ledger
import SingleFlight.Proofs.TokenCache.Serving
import SingleFlight.Proofs.TokenCache.Failing
import SingleFlight.Proofs.TokenCache.Cold
import SingleFlight.Proofs.Cache.Kept
import SingleFlight.Proofs.TokenCache.Attempts
import SingleFlight.Proofs.TokenCache.Outage
import SingleFlight.Proofs.TokenCache.Stages
import SingleFlight.Proofs.TokenCache.Outlasting
import SingleFlight.Proofs.TokenCache.Schedule
import SingleFlight.Proofs.Retry
import SingleFlight.Proofs.Cache.Failed
import SingleFlight.Proofs.TokenCache.Answers
import SingleFlight.Proofs.Panics
import SingleFlight.Proofs.TokenCache.AtHand
import SingleFlight.Proofs.TokenCache.Pace
import SingleFlight.Proofs.FiniteClock
import SingleFlight.Proofs.Base64Url
import SingleFlight.Proofs.Token.Claims
import SingleFlight.Proofs.Token.Expiry
import SingleFlight.Proofs.Token.Refresh
import SingleFlight.Proofs.Token.Jwt
import SingleFlight.Proofs.Text.Natural
import SingleFlight.Proofs.Http.Lifetime
import SingleFlight.Proofs.Http.Fetching
import SingleFlight.Proofs.Cache.Sources
import SingleFlight.Proofs.TokenCache.Sources
import SingleFlight.Proofs.Http.Refusal
import SingleFlight.Proofs.Backoff
import SingleFlight.Proofs.Settings.Validation
import SingleFlight.Proofs.Classification
import SingleFlight.Proofs.TokenCache.Dropped
