import SingleFlight.Parameter.Set
import SingleFlight.Retry
import SingleFlight.Source
import SingleFlight.Token

/-!
Sources that play a script: each fetch takes the next entry, which says how long it takes and how
it ends.  The keys of the scripted fetches are built from three parameters.
-/

namespace SingleFlight
namespace Simulation

/-! ## Keys -/

/-- In the order of their declaration. -/
def keyParameters :
    Parameter String × Parameter String × Parameter String :=
  let (d, secretId) := Declarations.declare {} "secretId" true false none
  let (d, region) := d.declare "region" false false (some "us-east-1")
  let (_, apiKey) := d.declare "apiKey" false true none
  (secretId, region, apiKey)

/-- Which secret to fetch. -/
def secretId : Parameter String := keyParameters.1

/-- Where to fetch it. -/
def region : Parameter String := keyParameters.2.1

/-- What to show for it. -/
def apiKey : Parameter String := keyParameters.2.2

/-- The set of the values that are given. -/
def keyOf (secret place card : Option String) : ParameterSet :=
  let put (p : Parameter String) (v : Option String) (s : ParameterSet) :=
    match v with
    | some v => s.add p v
    | none => s
  put apiKey card (put region place (put secretId secret ParameterSet.empty))

/-! ## Entries -/

/-- How a fetch ends. -/
inductive Plan (β : Type) where
  | fails (failure : Failure)
  | panics (text : Option String)
  | gives (result : β)

structure Entry (β : Type) where
  delay : Nat
  /-- It panics when it is called, and not when it is done. -/
  immediate : Bool
  /-- Its end takes away the callers that wait for it. -/
  severs : Bool
  plan : Plan β

/-- The entries that are left, and the number of fetches so far. -/
structure Script (β : Type) where
  entries : List (Entry β)
  fetches : Nat

/-- A fetch that is done at once. -/
def atOnce {α : Type} (now : Nat) (ending : Ending (Resource α)) : Fetch α :=
  { due := now, severs := false, ending := fun env => (env, ending) }

/-- What a fetch fails with when the script is over. -/
def exhausted : Failure := Failure.plain "script exhausted"

/-- The fetch that an entry describes, called now.  `make` makes the resource when it is done. -/
def Entry.fetch {α β : Type} (e : Entry β) (make : β → Surroundings → Surroundings × Resource α)
    (now : Nat) : Fetch α :=
  { due := now + e.delay
    severs := e.severs
    ending := fun env =>
      match e.plan with
      | .fails f => (env, .returned (.error f))
      | .panics text => (env, .panicked text)
      | .gives result =>
        let (env, r) := make result env
        (env, .returned (.ok r)) }

/-- An entry that panics when it is called. -/
def Entry.immediatePanic? {β : Type} (e : Entry β) : Option (Option String) :=
  match e.immediate, e.plan with
  | true, .panics text => some text
  | _, _ => none

/-- The operation that plays outcomes, each after its delay. -/
def operation {α : Type} (outcomes : List (Nat × Except Failure α)) : Retry.Operation α :=
  fun n now =>
    match outcomes[n - 1]? with
    | some (delay, result) => (now + delay, result)
    | none => (now, .error exhausted)

/-- The milliseconds that all fetches of a script take together. -/
def Script.millis {β : Type} (script : Script β) : Nat :=
  script.entries.foldl (fun d entry => d + entry.delay) 0 / 1000000

/-! ## Secrets -/

/-- A text in which the names of the two parameters stand for their values, with its validity. -/
structure SecretPlan where
  text : String
  validity : ValidityPlan
  sensitive : Bool

def SecretPlan.make (key : ParameterSet) (object : Nat) (p : SecretPlan) (env : Surroundings) :
    Surroundings × Resource String :=
  let value := (p.text.replace "\x7bid\x7d" ((key.get? secretId).getD "")).replace
    "\x7bregion\x7d" ((key.get? region).getD "")
  let (env, validity) := p.validity.make env
  (env, { value := value, object := object, validity := validity, sensitive := p.sensitive })

/-- Every fetch takes an entry, also one whose key names no secret. -/
def secrets : Source (Script SecretPlan) ParameterSet String where
  call script key now :=
    let next : Script SecretPlan :=
      { entries := script.entries.tail, fetches := script.fetches + 1 }
    let fetch := match script.entries.head?.bind Entry.immediatePanic? with
      | some text => atOnce now (.panicked text)
      | none =>
        match key.getRequired secretId with
        | .error e => atOnce now (.returned (.error (Failure.ofResourceError e)))
        | .ok _ =>
          match script.entries.head? with
          | none => atOnce now (.returned (.error exhausted))
          | some e => e.fetch (SecretPlan.make key script.fetches) now
    (fetch, next)

/-! ## Tokens -/

structure TokenPlan where
  value : String
  lifetime : Nat
  validity : ValidityPlan

/-- The lifetime of the token starts when the fetch is done. -/
def TokenPlan.make (object : Nat) (p : TokenPlan) (env : Surroundings) :
    Surroundings × Resource Token :=
  let (env, validity) := p.validity.make env
  (env,
    { value := Token.expiringIn env.now p.value p.lifetime, object := object
      validity := validity, sensitive := true })

/-- A fetch whose key names no secret takes no entry. -/
def tokens : Source (Script TokenPlan) ParameterSet Token where
  call script key now :=
    match key.getRequired secretId with
    | .error e =>
      (atOnce now (.returned (.error (Failure.ofResourceError e))),
        { script with fetches := script.fetches + 1 })
    | .ok _ =>
      let next : Script TokenPlan :=
        { entries := script.entries.tail, fetches := script.fetches + 1 }
      match script.entries.head? with
      | none => (atOnce now (.returned (.error exhausted)), next)
      | some e =>
        match e.immediatePanic? with
        | some text => (atOnce now (.panicked text), next)
        | none => (e.fetch (TokenPlan.make script.fetches) now, next)

end Simulation
end SingleFlight
