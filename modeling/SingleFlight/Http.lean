import SingleFlight.Http.Method
import SingleFlight.Http.Status
import SingleFlight.Parameter.Set
import SingleFlight.Retry
import SingleFlight.Source
import SingleFlight.Text.Blank
import SingleFlight.Text.Natural
import SingleFlight.Token.Jwt

/-!
Tokens from an HTTP endpoint.

The parameters say where and how to ask, and how to read the answer.  What they leave undecided is
settled before anything is asked, so an error in them costs nothing.  Then the endpoint is asked,
repeatedly if need be, and the token is read from the JSON of a response: its lifetime is a field of
the response, or else the token itself carries its expiry.
-/

namespace SingleFlight
namespace Http

/-! ## Parameters -/

/-- The declarations, in this order: where to ask, the method, the authorization, the field of the
token, the field of its lifetime, and how often to ask. -/
structure Parameters where
  url : Parameter String
  method : Parameter String
  authorization : Parameter String
  tokenField : Parameter String
  expiresInField : Parameter String
  attempts : Parameter Nat

def declared : Parameters :=
  let (d, url) := Declarations.declare {} "token_url" true false none
  let (d, method) := d.declare "method" false false (some "GET")
  let (d, authorization) := d.declare "authorization" false true none
  let (d, tokenField) := d.declare "token_field" false false (some "access_token")
  let (d, expiresInField) := d.declare "expires_in_field" false false (some "expires_in")
  let (_, attempts) := d.declare "fetch_attempts" false false (some 1)
  { url, method, authorization, tokenField, expiresInField, attempts }

/-- What a fetch has settled before it asks. -/
structure Plan where
  url : String
  method : String
  authorization : Option String
  tokenField : String
  expiresInField : String
  attempts : Nat
deriving DecidableEq, Repr

/-- The method is settled before the place to ask is looked for. -/
def plan (parameters : ParameterSet) : Except ResourceError Plan := do
  let name ← parameters.getRequired declared.method
  match method? name with
  | none => throw (.configuration ("invalid HTTP method '" ++ name ++ "'"))
  | some method =>
    pure
      { url := ← parameters.getRequired declared.url
        method := method
        authorization := parameters.get? declared.authorization
        tokenField := ← parameters.getRequired declared.tokenField
        expiresInField := ← parameters.getRequired declared.expiresInField
        attempts := ← parameters.getRequired declared.attempts }

/-! ## Responses -/

structure Request where
  method : String
  url : String
  authorization : Option String
deriving DecidableEq, Repr

def Plan.request (p : Plan) : Request :=
  { method := p.method, url := p.url, authorization := p.authorization }

inductive Reply where
  /-- No response came, for these causes. -/
  | unreachable (causes : List String)
  | response (status : Nat) (body : List UInt8)
deriving DecidableEq, Repr

/-- Why a reply gives no token. -/
inductive ReplyError where
  | transport (url : String) (causes : List String)
  | status (code : Nat)
  | notJson (body : List UInt8)
  | noToken (field : String)
  | noLifetime (field value : String) (cause : Token.JwtError)
deriving DecidableEq, Repr

/-- What the decoders say of what they refuse, outermost cause first. -/
structure Complaints extends Token.Jwt.Complaints where
  /-- Of a body that is not JSON. -/
  body : List UInt8 → List String

/-- Decoders that give no reason. -/
def Complaints.silent : Complaints :=
  { base64 := fun _ => [], claims := fun _ => [], body := fun _ => [] }

/-- The failure of an attempt, with its causes under it. -/
def ReplyError.failure (said : Complaints) : ReplyError → Failure
  | transport url causes => .ofCauses ("error sending request for url (" ++ url ++ ")") causes
  | status code => .plain ("HTTP request failed: " ++ statusText code)
  | notJson body => .ofCauses "token response is not valid JSON" (said.body body)
  | noToken field => .plain ("token response has no string field '" ++ field ++ "'")
  | noLifetime field value cause =>
    (cause.failure said.toComplaints value).context
      ("token response has no '" ++ field ++ "' and the token is not a JWT")

/-- A lifetime in seconds, as a number or as a text that holds one between blanks. -/
def seconds? : Json.Value → Option Nat
  | .number (.integer i) => if 0 ≤ i then some i.toNat else none
  | .text s => Text.natural64? (Text.trim s).toList
  | _ => none

/-- The token of a body, read now. -/
def readToken (p : Plan) (now : Nat) (wall : Int) (body : Json.Value) : Except ReplyError Token :=
  match (body.get? p.tokenField).bind Json.Value.text? with
  | none => .error (.noToken p.tokenField)
  | some value =>
    match (body.get? p.expiresInField).bind seconds? with
    | some seconds => .ok (Token.expiringIn now value (Span.ofSeconds seconds))
    | none =>
      match Token.ofJwt now wall value with
      | .ok token => .ok token
      | .error cause => .error (.noLifetime p.expiresInField value cause)

/-- The token of a reply that comes now. -/
def tokenOf (p : Plan) (now : Nat) (wall : Int) : Reply → Except ReplyError Token
  | .unreachable causes => .error (.transport p.url causes)
  | .response status body =>
    if isSuccess status then
      match Json.Value.read body with
      | some value => readToken p now wall value
      | none => .error (.notJson body)
    else .error (.status status)

/-! ## Fetching -/

/-- What answers: the reply to each request, by the number of requests before it. -/
abbrev Endpoint := Nat → Request → Reply

/-- An endpoint on a network that leads nowhere. -/
def Endpoint.unreachable : Endpoint := fun _ _ =>
  .unreachable
    ["client error (Connect)", "tcp connect error", "Network is unreachable (os error 101)"]

/-- An endpoint with these responses and, after them, no service. -/
def Endpoint.ofResponses (responses : List (Nat × List UInt8)) : Endpoint := fun n _ =>
  match responses[n]? with
  | some (status, body) => .response status body
  | none => .response 503 []

structure Fetcher where
  endpoint : Endpoint
  backoff : Backoff
  /-- What the wall clock shows at the start of the clock. -/
  wall : Int
  /-- How far the wall clock has gone on at an instant. -/
  gone : Nat → Int := fun _ => 0
  /-- How long a reply takes to come, by the number of requests before it. -/
  latency : Nat → Nat := fun _ => 0
  /-- The decoders that read the replies. -/
  said : Complaints := .silent

/-- A fetch from beginning to end. -/
structure Fetched where
  /-- The requests, and the instants at which they were made. -/
  requests : List (Nat × Request)
  /-- The reply to the last request. -/
  lastReply : Option Reply
  finish : Nat
  result : Except Failure Token

namespace Fetcher

/-- What the wall clock shows at an instant. -/
def wallAt (f : Fetcher) (instant : Nat) : Int := f.wall + f.gone instant

/-- An attempt makes one request and reads the reply when it has come.  `asked` requests were made
before the fetch. -/
def attempt (f : Fetcher) (p : Plan) (asked : Nat) : Retry.Operation Token := fun n sent =>
  let earlier := asked + (n - 1)
  let answered := sent + f.latency earlier
  (answered,
    (tokenOf p answered (f.wallAt answered) (f.endpoint earlier p.request)).mapError
      (ReplyError.failure f.said))

def fetch (f : Fetcher) (parameters : ParameterSet) (asked now : Nat) : Fetched :=
  match plan parameters with
  | .error e =>
    { requests := [], lastReply := none, finish := now
      result := .error (Failure.ofResourceError e) }
  | .ok p =>
    let run := Retry.run (Retry.Policy.make p.attempts f.backoff) (f.attempt p asked) now
    { requests := run.calls.map fun sent => (sent, p.request)
      lastReply := some (f.endpoint (asked + (run.calls.length - 1)) p.request)
      finish := run.finish
      result := run.result }

/-- The fetcher as a source, which remembers how often the endpoint was asked and how many fetches
there were. -/
def source (f : Fetcher) : Source (Nat × Nat) ParameterSet Token where
  call := fun (asked, fetches) parameters now =>
    let fetched := f.fetch parameters asked now
    ({ due := fetched.finish
       severs := false
       ending := fun env =>
         (env, .returned (fetched.result.map fun token => token.toResource fetches)) },
      (asked + fetched.requests.length, fetches + 1))

end Fetcher
end Http
end SingleFlight
