import SingleFlight.Source
import SingleFlight.TokenCache

/-!
A token cache under a virtual clock.

Every turn of an agent is one event of the token cache, so a run of a scene is a run of the cache in
which whatever is due at an instant happens at that instant.  The main line takes one step after
another; a step that waits lets time pass.
-/

namespace SingleFlight
namespace Simulation

open TokenCache (Agent Event Note State Wish)

/-- A reader that was started by the main line and goes on beside it. -/
structure Reader where
  name : String
  caller : Nat
  cancelled : Bool
  /-- Whether its end has been told. -/
  told : Bool

structure TokenScene (σ : Type) where
  env : Surroundings
  state : State
  memory : σ
  /-- The fetches that have not ended, by round. -/
  fetches : Table Nat (Fetch Token)
  /-- The instants of the calls to the source, the latest first. -/
  calledAt : List Nat
  /-- The number of callers so far, which names the next one. -/
  callers : Nat
  readers : List Reader
  /-- What the callers were answered, and when. -/
  answers : Table Nat (Nat × Except ResourceError Token)
  /-- How many publications each subscriber has seen. -/
  subscribers : Table String Nat
  /-- What the steps made known, the latest first. -/
  journal : List Note

structure TokenSetting (σ : Type) where
  config : TokenCache.Config
  source : Source σ ParameterSet Token
  /-- More than the number of events at any one instant. -/
  patience : Nat
  /-- More than the number of instants at which anything happens while the main line waits. -/
  horizon : Nat

namespace TokenScene

variable {σ : Type}

def start (memory : σ) : TokenScene σ :=
  { env := Surroundings.start
    state := State.start
    memory := memory
    fetches := Table.empty
    calledAt := []
    callers := 0
    readers := []
    answers := Table.empty
    subscribers := Table.empty
    journal := [] }

def now (s : TokenScene σ) : Nat := s.env.now

/-- Keep what a note says for later. -/
def take (s : TokenScene σ) (note : Note) : TokenScene σ :=
  let s := { s with journal := note :: s.journal }
  match note with
  | .answered n result => { s with answers := s.answers.insert n (s.now, result) }
  | _ => s

/-- The token cache takes a step, if it can, and the source is called where a round was started. -/
def occur? (setting : TokenSetting σ) (s : TokenScene σ) (e : Event) : Option (TokenScene σ) :=
  match TokenCache.step setting.config s.env s.state e with
  | none => none
  | some (env, state, notes) =>
    let s := notes.foldl take { s with env := env, state := state }
    some (notes.foldl (fun s note =>
      match note with
      | .keyed (.missed key round) =>
        let (fetch, memory) := setting.source.call s.memory key s.now
        { s with
          memory := memory
          fetches := s.fetches.insert round fetch
          calledAt := s.now :: s.calledAt }
      | _ => s) s)

def occur (setting : TokenSetting σ) (s : TokenScene σ) (e : Event) : TokenScene σ :=
  (s.occur? setting e).getD s

/-- The next event of a request to the keyed cache, if it can go on. -/
def requestTurn? (setting : TokenSetting σ) (s : TokenScene σ) (a : Agent) :
    Option (TokenScene σ) :=
  match s.state.keyed.callers.get? a with
  | none => s.occur? setting (.keyed (.look a setting.config.parameters))
  | some (.undecided _) => s.occur? setting (.keyed (.decide a))
  | some (.awaiting _ round) =>
    match s.state.keyed.outcome? round with
    | some _ => s.occur? setting (.keyed (.settle a))
    | none =>
      match s.fetches.get? round with
      | some fetch =>
        if fetch.due ≤ s.now then
          let (env, ending) := fetch.ending s.env
          { s with env := env, fetches := s.fetches.erase round }.occur? setting
            (.keyed (.finish round ending))
        else none
      | none => none

/-- The next event of an agent, if it can go on now. -/
def turn? (setting : TokenSetting σ) (s : TokenScene σ) (a : Agent) : Option (TokenScene σ) :=
  match s.occur? setting (.act a) with
  | some s => some s
  | none =>
    if s.state.mayRequest a then s.requestTurn? setting a
    else
      match a with
      | .refresh t =>
        match s.state.tasks.get? t with
        | some (.sleeping firesAt) =>
          if s.state.timer.map TokenCache.Timer.id = some t && Instant.tick firesAt ≤ s.now then
            (s.occur? setting (.fire t)).or (s.occur? setting (.quit t))
          else s.occur? setting (.quit t)
        | _ => none
      | .caller _ => none

/-- An agent goes on until it can no more; at most `fuel` events. -/
def run (setting : TokenSetting σ) (a : Agent) : Nat → TokenScene σ → TokenScene σ × Bool
  | 0, s => (s, false)
  | fuel + 1, s =>
    match s.turn? setting a with
    | some s => ((run setting a fuel s).1, true)
    | none => (s, false)

/-- The agents at work: callers in the order of their coming, then timers in the order of arming. -/
def agents (s : TokenScene σ) : List Agent :=
  (s.state.callers.keys.mergeSort (· ≤ ·)).map Agent.caller ++
    (s.state.tasks.keys.mergeSort (· ≤ ·)).map Agent.refresh

/-- Every agent goes on as far as it can, until none can; at most `fuel` times round. -/
def settleRounds (setting : TokenSetting σ) : Nat → TokenScene σ → TokenScene σ
  | 0, s => s
  | fuel + 1, s =>
    let (s, moved) := s.agents.foldl (fun (s, moved) a =>
      let (s, m) := run setting a setting.patience s
      (s, moved || m)) (s, false)
    if moved then settleRounds setting fuel s else s

def settleDown (setting : TokenSetting σ) (s : TokenScene σ) : TokenScene σ :=
  s.settleRounds setting setting.patience

/-- The earliest instant at which an agent can go on. -/
def nextDue? (s : TokenScene σ) : Option Nat :=
  let fetches := s.fetches.rows.filterMap fun (round, fetch) =>
    if s.state.keyed.isAwaited round then some fetch.due else none
  let timers := s.state.tasks.rows.filterMap fun (_, task) =>
    match task with
    | .sleeping firesAt => some (Instant.tick firesAt)
    | _ => none
  (fetches ++ timers).min?

def moveTo (s : TokenScene σ) (instant : Nat) : TokenScene σ :=
  { s with env := { s.env with now := instant } }

/-- Let time pass until an instant, doing what is due on the way.  There is nothing to do between
two whole milliseconds, so `fuel` is the number of milliseconds on the way. -/
def advanceTo (setting : TokenSetting σ) (instant : Nat) : Nat → TokenScene σ → TokenScene σ
  | 0, s => (s.moveTo instant).settleDown setting
  | fuel + 1, s =>
    match s.nextDue? with
    | some due =>
      if due ≤ instant then
        advanceTo setting instant fuel ((s.moveTo (max due s.now)).settleDown setting)
      else (s.moveTo instant).settleDown setting
    | none => (s.moveTo instant).settleDown setting

def advance (setting : TokenSetting σ) (s : TokenScene σ) (millis : Nat) : TokenScene σ :=
  s.advanceTo setting (s.now + Span.ofMillis millis) (millis + 1)

/-- A caller comes; its name is the number of those before it. -/
def enter (setting : TokenSetting σ) (s : TokenScene σ) (wish : Wish) : TokenScene σ × Nat :=
  ({ s with callers := s.callers + 1 }.occur setting (.enter s.callers wish), s.callers)

/-- Let time pass until a caller is no longer at work. -/
def awaitCaller (setting : TokenSetting σ) (n : Nat) : Nat → TokenScene σ → TokenScene σ
  | 0, s => s
  | fuel + 1, s =>
    let s := s.settleDown setting
    match s.state.callers.get? n with
    | none => s
    | some _ =>
      match s.nextDue? with
      | some due => awaitCaller setting n fuel (s.moveTo (max due s.now))
      | none => s

/-- The main line makes a wish and waits until it is done. -/
def call (setting : TokenSetting σ) (s : TokenScene σ) (wish : Wish) :
    TokenScene σ × Option (Except ResourceError Token) :=
  let (s, n) := s.enter setting wish
  let s := s.awaitCaller setting n setting.horizon
  (s, (s.answers.get? n).map Prod.snd)

/-- A reader that goes on beside the main line. -/
def spawn (setting : TokenSetting σ) (s : TokenScene σ) (name : String) : TokenScene σ :=
  let (s, n) := s.enter setting .get
  settleDown setting
    { s with
      readers := s.readers ++ [{ name := name, caller := n, cancelled := false, told := false }] }

def isAtWork (s : TokenScene σ) (r : Reader) : Bool :=
  !r.cancelled && (s.answers.get? r.caller).isNone

/-- The latest reader of the name that is at work goes away. -/
def cancel (setting : TokenSetting σ) (s : TokenScene σ) (name : String) : TokenScene σ :=
  match (s.readers.filter fun r => r.name == name && s.isAtWork r).getLast? with
  | some reader =>
    let s := s.occur setting (.cancel reader.caller)
    settleDown setting
      { s with
        readers := s.readers.map fun r =>
          if r.caller = reader.caller then { r with cancelled := true } else r }
  | none => s.settleDown setting

def setFlag (setting : TokenSetting σ) (s : TokenScene σ) (flag : String) (up : Bool) :
    TokenScene σ :=
  { s with env := s.env.setFlag flag up }.settleDown setting

def addHandle (setting : TokenSetting σ) (s : TokenScene σ) : TokenScene σ :=
  (s.occur setting .addHandle).settleDown setting

def dropHandle (setting : TokenSetting σ) (s : TokenScene σ) : TokenScene σ :=
  (s.occur setting .dropHandle).settleDown setting

/-- A subscriber has seen what was published before it came. -/
def subscribe (s : TokenScene σ) (name : String) : TokenScene σ :=
  { s with subscribers := s.subscribers.insert name s.state.publications }

/-- Whether something was published since the subscriber last looked; nothing more can be once the
cache cannot be reached. -/
def receive (s : TokenScene σ) (name : String) : TokenScene σ × Option Bool :=
  let news :=
    if s.state.isReachable then some ((s.subscribers.get? name).getD 0 != s.state.publications)
    else none
  (s.subscribe name, news)

/-- The readers that have come to an end since this was last asked, by name. -/
def takeEnded (s : TokenScene σ) : TokenScene σ × List Reader :=
  let ended := s.readers.filter fun r => !s.isAtWork r && !r.told
  ({ s with
      readers := s.readers.map fun r => if s.isAtWork r then r else { r with told := true } },
    ended.mergeSort fun a b => a.name ≤ b.name)

/-- The names of the readers at work, in order. -/
def waiting (s : TokenScene σ) : List String :=
  ((s.readers.filter s.isAtWork).map Reader.name).mergeSort fun a b => a ≤ b

/-- What was counted, for a cache of this name. -/
def events (name : String) (s : TokenScene σ) : List Metrics.Event :=
  s.journal.reverse.flatMap (Note.metrics name)

/-- What was logged. -/
def records (name : String) (s : TokenScene σ) : List Log.Record :=
  s.journal.reverse.flatMap (Note.records name)

end TokenScene
end Simulation
end SingleFlight
