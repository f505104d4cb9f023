import SingleFlight.Backoff
import SingleFlight.Cache
import SingleFlight.Parameter.Set
import SingleFlight.Token.Window

/-!
The token cache: one access token, kept fresh in the background.

Readers are served the held token until it expires.  A timer asks for a new one ahead of that, and
after a failure tries again with growing delays while the held token lives.  Only a reader that
finds no token, or an expired one, fetches and waits.  All fetches go through a keyed cache, so a
refresh and a waiting reader share one round.

What the cache holds changes under one lock, which is granted in the order of asking.  A reader that
fetches keeps it until its round is over; a refresh asks for it when its round is over.  A refresh
counts only if its timer still is the timer of the cache when it gets the lock: `start`, `stop`, or
a token that a reader fetched meanwhile leave it superseded.
-/

namespace SingleFlight
namespace TokenCache

structure Config where
  name : String
  parameters : ParameterSet
  /-- How far ahead of its expiry a token is refreshed. -/
  lead : Nat
  backoff : Backoff

/-- Who works on the cache: a caller, or the task of a timer. -/
inductive Agent where
  | caller (n : Nat)
  | refresh (timer : Nat)
deriving DecidableEq, Repr

/-- What a caller wants. -/
inductive Wish where
  | get
  | start
  | stop
deriving DecidableEq, Repr

inductive CallerStage where
  /-- It waits for the lock, or has it and has yet to act. -/
  | queued (wish : Wish)
  /-- It has the lock and fetches. -/
  | fetching
deriving DecidableEq, Repr

/-- The task of a timer. -/
inductive Task where
  | sleeping (firesAt : Nat)
  /-- The timer has fired, and the request for a token is under way. -/
  | requesting
  /-- The request has been answered; the lock is asked for or held. -/
  | returned (round : Nat) (outcome : Outcome (Resource Token))

def Task.isSleeping : Task → Bool
  | sleeping _ => true
  | _ => false

/-- The token that readers are served, and the round that fetched it. -/
structure Held where
  token : Token
  /-- From here on the token should be replaced. -/
  refreshAt : Nat
  round : Nat
deriving DecidableEq, Repr

/-- The timer of the next refresh. -/
structure Timer where
  id : Nat
  firesAt : Nat
deriving DecidableEq, Repr

structure State where
  keyed : Cache.State Agent ParameterSet Token
  held : Option Held
  timer : Option Timer
  /-- Whether timers are armed. -/
  enabled : Bool
  /-- Refreshes that failed since the last token was installed. -/
  failures : Nat
  lastError : Option ResourceError
  /-- The token last told to subscribers. -/
  published : Option Token
  /-- How often subscribers have been told. -/
  publications : Nat
  nextTimer : Nat
  /-- Who has the lock. -/
  holder : Option Agent
  /-- Who waits for it, in order. -/
  queue : List Agent
  callers : Table Nat CallerStage
  tasks : Table Nat Task
  /-- The handles through which the cache can be reached. -/
  handles : Nat

inductive Event where
  /-- A caller comes through a handle and asks for the lock. -/
  | enter (caller : Nat) (wish : Wish)
  /-- The holder of the lock does what it wanted the lock for. -/
  | act (agent : Agent)
  /-- The keyed cache takes a step; a fetch ends with what the source gave. -/
  | keyed (e : Cache.Event Agent ParameterSet Token)
  /-- A sleeping timer whose instant has come starts a refresh. -/
  | fire (timer : Nat)
  /-- A timer that was replaced, or that nobody can reach the cache of, ends in its sleep. -/
  | quit (timer : Nat)
  /-- A caller goes away before it is answered. -/
  | cancel (caller : Nat)
  | addHandle
  | dropHandle

/-- What a step makes known. -/
inductive Note where
  | keyed (note : Cache.Note Agent ParameterSet Token)
  /-- A reader found the held token expired. -/
  | foundExpired
  | answered (caller : Nat) (result : Except ResourceError Token)
  | installed (held : Held)
  | armed (timer : Timer) (delay : Nat)
  | started
  | stopped
  /-- A timer fired. -/
  | refreshing (timer : Nat)
  /-- A refresh got a token. -/
  | refreshed (timer : Nat)
  /-- A refresh ended that no longer counts. -/
  | discarded (timer : Nat)
  /-- A refresh failed; it is tried again after the delay, if there is one. -/
  | refreshFailed (failures : Nat) (error : ResourceError) (delay : Option Nat)

/-- The greatest number of failures that is told apart. -/
def failureBound : Nat := 4294967295

namespace State

def start : State :=
  { keyed := Cache.State.empty
    held := none
    timer := none
    enabled := true
    failures := 0
    lastError := none
    published := none
    publications := 0
    nextTimer := 0
    holder := none
    queue := []
    callers := Table.empty
    tasks := Table.empty
    handles := 1 }

/-- The held token while it has not expired. -/
def usable? (s : State) (now : Nat) : Option Held := s.held.filter fun h => !h.token.isExpired now

/-- The token that is read without asking for the lock. -/
def current? (s : State) (now : Nat) : Option Token :=
  s.published.filter fun t => !t.isExpired now

/-- Whether anybody can reach the cache: through a handle, in a call, or in a refresh. -/
def isReachable (s : State) : Bool :=
  decide (0 < s.handles) || !s.callers.rows.isEmpty ||
    s.tasks.rows.any fun row => !row.2.isSleeping

/-- Ask for the lock. -/
def lock (s : State) (a : Agent) : State :=
  match s.holder with
  | none => { s with holder := some a }
  | some _ => { s with queue := s.queue ++ [a] }

/-- Hand the lock on. -/
def unlock (s : State) : State := { s with holder := s.queue.head?, queue := s.queue.tail }

/-- Whether an agent has a request to the keyed cache to make or under way. -/
def mayRequest (s : State) : Agent → Bool
  | .caller n => s.callers.get? n == some .fetching
  | .refresh t =>
    match s.tasks.get? t with
    | some .requesting => true
    | _ => false

/-- Replace the timer by one that fires at the instant, unless timers are off. -/
def arm (s : State) (now firesAt : Nat) : State × List Note :=
  if s.enabled then
    let timer : Timer := { id := s.nextTimer, firesAt := firesAt }
    ({ s with
        timer := some timer
        nextTimer := s.nextTimer + 1
        tasks := s.tasks.insert timer.id (.sleeping firesAt) },
      [.armed timer (Instant.remaining firesAt now)])
  else (s, [])

/-- Hold a token, tell the subscribers, and arm its refresh. -/
def install (s : State) (now : Nat) (h : Held) : State × List Note :=
  let (s, notes) :=
    { s with
      held := some h
      published := some h.token
      publications := s.publications + 1
      failures := 0
      lastError := none }.arm now h.refreshAt
  (s, .installed h :: notes)

/-- What is held once a round has given this resource. -/
def heldOf (round : Nat) (r : Resource Token) : Held :=
  { token := r.value, refreshAt := Token.refreshAt r, round := round }

/-- A caller is answered and hands the lock on. -/
def answer (s : State) (caller : Nat) (result : Except ResourceError Token) : State × List Note :=
  ({ s with callers := s.callers.erase caller }.unlock, [.answered caller result])

/-- A request to the keyed cache has been answered. -/
def conclude (s : State) (now : Nat) (agent : Agent) (round : Nat)
    (outcome : Outcome (Resource Token)) : State × List Note :=
  match agent with
  | .caller n =>
    match outcome with
    | .ok r =>
      let (s, installed) := s.install now (heldOf round r)
      let (s, answered) := s.answer n (.ok r.value)
      (s, installed ++ answered)
    | .error e => s.answer n (.error e)
  | .refresh t => ({ s with tasks := s.tasks.insert t (.returned round outcome) }.lock agent, [])

/-- The end of a refresh whose timer still counts. -/
def completeRefresh (cfg : Config) (s : State) (now t round : Nat)
    (outcome : Outcome (Resource Token)) : State × List Note :=
  match outcome with
  | .ok r =>
    let (s, notes) := { s with timer := none }.install now (heldOf round r)
    (s, .refreshed t :: notes)
  | .error e =>
    let failures := min (s.failures + 1) failureBound
    let s := { s with timer := none, failures := failures, lastError := some e }
    if e.isConfiguration || (s.usable? now).isNone then
      (s, [.refreshFailed failures e none])
    else
      let delay := cfg.backoff.delay failures
      let (s, notes) := s.arm now (Instant.after now delay)
      (s, .refreshFailed failures e (some delay) :: notes)

/-- The holder of the lock acts. -/
def act (cfg : Config) (s : State) (now : Nat) (agent : Agent) : Option (State × List Note) :=
  match agent with
  | .caller n =>
    match s.callers.get? n with
    | some (.queued .get) =>
      match s.usable? now with
      | some h => some (s.answer n (.ok h.token))
      | none =>
        some ({ s with callers := s.callers.insert n .fetching },
          if s.held.isSome then [.foundExpired] else [])
    | some (.queued .start) =>
      let s := { s with enabled := true }
      let (s, notes) :=
        if s.timer.isSome then (s, [])
        else
          let (s, notes) := match s.usable? now with
            | some h => s.arm now h.refreshAt
            | none => (s, [])
          (s, notes ++ [.started])
      some ({ s with callers := s.callers.erase n }.unlock, notes)
    | some (.queued .stop) =>
      some
        ({ s with enabled := false, timer := none, callers := s.callers.erase n }.unlock,
          [.stopped])
    | _ => none
  | .refresh t =>
    match s.tasks.get? t with
    | some (.returned round outcome) =>
      let (s, notes) :=
        if s.timer.map Timer.id = some t then s.completeRefresh cfg now t round outcome
        else (s, [.discarded t])
      some ({ s with tasks := s.tasks.erase t }.unlock, notes)
    | _ => none

/-- A caller goes away.  It leaves the queue, or hands on the lock that it has; a round that it
waited for stays in the keyed cache. -/
def cancel (s : State) (n : Nat) : State :=
  let s :=
    { s with
      callers := s.callers.erase n
      keyed := s.keyed.leave (.caller n)
      queue := s.queue.filter (· ≠ .caller n) }
  if s.holder = some (.caller n) then s.unlock else s

end State

/-- The surroundings and the state after a step, and what the step made known. -/
abbrev Result := Surroundings × State × List Note

/-- The event as the keyed cache sees it.  A fetched token passes through the refresh window at the
moment its fetch ends. -/
def arriving (cfg : Config) (now : Nat) :
    Cache.Event Agent ParameterSet Token → Cache.Event Agent ParameterSet Token
  | .finish round ending => .finish round (Token.windowed now cfg.lead ending)
  | e => e

/-- A step of the keyed cache, and what follows from an answer that it gives. -/
def keyedStep (cfg : Config) (env : Surroundings) (s : State)
    (e : Cache.Event Agent ParameterSet Token) : Option Result :=
  match Cache.step ParameterSet.text env s.keyed (arriving cfg env.now e) with
  | some (env, keyed, notes) =>
    let s := { s with keyed := keyed }
    let known := notes.map Note.keyed
    match notes.findSome? Cache.Note.answer? with
    | some (agent, round, outcome) =>
      let (s, more) := s.conclude env.now agent round outcome
      some (env, s, known ++ more)
    | none => some (env, s, known)
  | none => none

/-- One step, or nothing where the event cannot happen. -/
def step (cfg : Config) (env : Surroundings) (s : State) : Event → Option Result
  | .enter n wish =>
    match s.callers.get? n with
    | none =>
      if 0 < s.handles then
        some (env, { s with callers := s.callers.insert n (.queued wish) }.lock (.caller n), [])
      else none
    | some _ => none
  | .act agent =>
    if s.holder = some agent then (s.act cfg env.now agent).map fun (s, notes) => (env, s, notes)
    else none
  | .keyed e =>
    match e with
    | .look agent key =>
      if s.mayRequest agent && key == cfg.parameters then keyedStep cfg env s e else none
    | .drop _ => none
    | e => keyedStep cfg env s e
  | .fire t =>
    match s.tasks.get? t with
    | some (.sleeping firesAt) =>
      if firesAt ≤ env.now && s.isReachable then
        some (env, { s with tasks := s.tasks.insert t .requesting }, [.refreshing t])
      else none
    | _ => none
  | .quit t =>
    match s.tasks.get? t with
    | some (.sleeping _) =>
      if !s.isReachable || s.timer.map Timer.id ≠ some t then
        some (env, { s with tasks := s.tasks.erase t }, [])
      else none
    | _ => none
  | .cancel n =>
    match s.callers.get? n with
    | some _ => some (env, s.cancel n, [])
    | none => none
  | .addHandle =>
    if 0 < s.handles then some (env, { s with handles := s.handles + 1 }, []) else none
  | .dropHandle =>
    if 0 < s.handles then some (env, { s with handles := s.handles - 1 }, []) else none

/-! ## Measurements and records -/

namespace Note

/-- What is counted for a cache of this name. -/
def metrics (name : String) : Note → List Metrics.Event
  | keyed note => note.metrics name
  | installed _ => [.consecutiveFailures name 0]
  | refreshing _ => [.refreshes name 1]
  | refreshFailed failures _ _ =>
    [.refreshFailures name 1, .consecutiveFailures name failures]
  | _ => []

/-- The part of the program that writes the records. -/
def target : String := "resource_cache::cache::token_cache"

def record (level : Log.Level) (name message : String) (fields : List (String × Log.Value)) :
    Log.Record :=
  { level := level, target := target, message := message
    fields := ("cache", .label name) :: fields }

/-- What is logged for a cache of this name. -/
def records (name : String) : Note → List Log.Record
  | keyed note => note.records name ParameterSet.text
  | foundExpired =>
    [record .warn name "held token expired before it was refreshed, fetching synchronously" []]
  | armed timer delay =>
    [record .debug name ("refresh scheduled in " ++ Span.text delay)
      [("timer", .number timer.id)]]
  | started => [record .info name "background refresh started" []]
  | stopped => [record .info name "background refresh stopped" []]
  | refreshed _ => [record .info name "token refreshed in background" []]
  | discarded timer =>
    [record .debug name "timer was cancelled while refreshing, discarding result"
      [("timer", .number timer)]]
  | refreshFailed _ e none =>
    [record .warn name
      ("background refresh failed, next read fetches synchronously: " ++ e.message) []]
  | refreshFailed failures e (some delay) =>
    [record .warn name
      ("background refresh failed, keeping current token and retrying in " ++ Span.text delay ++
        ": " ++ e.message)
      [("failures", .number failures)]]
  | _ => []

end Note
end TokenCache
end SingleFlight
