import SingleFlight.Http
import SingleFlight.Settings
import SingleFlight.Simulation.Requests
import SingleFlight.Simulation.Tokens

/-!
Tokens from an endpoint, asked for several times: directly, through a cache, or through the token
cache.
-/

namespace SingleFlight
namespace Simulation

/-- Through what the endpoint is asked. -/
inductive Via where
  | fetcher
  | cache
  | tokenCache
deriving DecidableEq, Repr

/-- The answer to one question, and how things stood then. -/
inductive EndpointAnswer where
  | resource (env : Surroundings) (r : Resource Token)
  | token (now : Nat) (t : Token)
  | refused (e : ResourceError)
  | failed (f : Failure)
  /-- No request could be made. -/
  | transport

/-- One question after another, each when the one before has been answered. -/
structure Questions where
  answers : List EndpointAnswer
  /-- When the last one was answered. -/
  finish : Nat

namespace Questions

/-- So many times one step that answers. -/
def repeatedly {τ : Type} (step : τ → τ × EndpointAnswer) : Nat → τ → τ × List EndpointAnswer
  | 0, s => (s, [])
  | n + 1, s =>
    let (s, a) := step s
    let (s, rest) := repeatedly step n s
    (s, a :: rest)

def direct (f : Http.Fetcher) (parameters : ParameterSet) (times : Nat) : Questions :=
  let ((now, _), answers) := repeatedly (fun (now, asked) =>
    let fetched := f.fetch parameters asked now
    let answer : EndpointAnswer := match fetched.result, fetched.lastReply with
      | .ok t, _ => .resource { Surroundings.start with now := fetched.finish } (t.toResource 0)
      | .error _, some (.unreachable _) => .transport
      | .error failure, _ => .failed failure
    ((fetched.finish, asked + fetched.requests.length), answer)) times (0, 0)
  { answers := answers, finish := now }

def cached (f : Http.Fetcher) (parameters : ParameterSet) (times : Nat) : Questions :=
  let setting : Setting (Nat × Nat) ParameterSet Token :=
    { describe := ParameterSet.text, source := f.source, height := 0 }
  let (scene, answers) := repeatedly (fun scene =>
    match Scene.request setting 0 parameters scene with
    | (scene, some (.ok (r, _))) => (scene, EndpointAnswer.resource scene.stack.env r)
    | (scene, some (.error e)) => (scene, .refused e)
    | (scene, none) => (scene, .transport)) times (Scene.start setting (0, 0))
  { answers := answers, finish := scene.now }

def tokenCached (f : Http.Fetcher) (parameters : ParameterSet) (times : Nat) : Questions :=
  let settings : TokenCacheSettings := {}
  let setting : TokenSetting (Nat × Nat) :=
    { config :=
        { name := "access_token", parameters := parameters, lead := settings.lead
          backoff := settings.backoff }
      source := f.source
      patience := 64
      horizon := 64 }
  let (scene, answers) := repeatedly (fun (scene : TokenScene (Nat × Nat)) =>
    match scene.call setting .get with
    | (scene, some (.ok t)) => (scene, EndpointAnswer.token scene.now t)
    | (scene, some (.error e)) => (scene, .refused e)
    | (scene, none) => (scene, .transport)) times (TokenScene.start (0, 0))
  { answers := answers, finish := scene.now }

def ask (f : Http.Fetcher) (parameters : ParameterSet) (times : Nat) : Via → Questions
  | .fetcher => direct f parameters times
  | .cache => cached f parameters times
  | .tokenCache => tokenCached f parameters times

end Questions
end Simulation
end SingleFlight
