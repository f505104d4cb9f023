import SingleFlight.Cache
import SingleFlight.Source

/-!
Caches over one another and a source under all of them.

The innermost cache fetches from the source, and each other cache from the one below it, where its
rounds are the callers.  Nothing happens by itself: a request is carried forward by `poll`, and by
each poll as far as it can go without waiting.  So a round whose callers have all gone stands still
until somebody asks for its key again.
-/

namespace SingleFlight
namespace Stack

/-- Who may call a cache of a stack: a client, or a round of the cache above. -/
inductive Caller where
  | client (n : Nat)
  | round (r : Nat)
deriving DecidableEq, Repr

/-- Caches are numbered by their height above the source. -/
structure State (σ κ α : Type) where
  env : Surroundings
  layers : List (Cache.State Caller κ α)
  /-- The fetches of the source, by the round of the innermost cache that they belong to. -/
  fetches : Table Nat (Fetch α)
  memory : σ
  /-- The keys of the calls to the source so far. -/
  called : List κ
  /-- What the steps made known and at which height, the latest first. -/
  journal : List (Nat × Cache.Note Caller κ α)

/-- How far a poll got. -/
inductive Progress (α : Type) where
  | answered (outcome : Outcome (Resource α))
  /-- Nothing more can happen before the instant. -/
  | waiting (due : Nat)
  /-- A fetch has ended that takes away the callers of its key before they can settle. -/
  | severed
  /-- There was nothing to do, or the caller holds back from taking up an outcome. -/
  | held

variable {σ κ α : Type} [DecidableEq κ]

/-- A stack of `height + 1` caches. -/
def State.start (height : Nat) (memory : σ) : State σ κ α :=
  { env := Surroundings.start
    layers := List.replicate (height + 1) Cache.State.empty
    fetches := Table.empty
    memory := memory
    called := []
    journal := [] }

namespace State

/-- How far the request of a caller at this height has come. -/
def stage? (s : State σ κ α) (height : Nat) (c : Caller) : Option (Cache.Stage κ) :=
  s.layers[height]?.bind fun layer => layer.callers.get? c

/-- The cache at this height takes a step, if it can.  The answer that the step gives comes with
the state. -/
def apply (describe : κ → String) (height : Nat) (e : Cache.Event Caller κ α)
    (s : State σ κ α) : State σ κ α × Option (Outcome (Resource α)) :=
  match s.layers[height]? with
  | none => (s, none)
  | some layer =>
    match Cache.step describe s.env layer e with
    | none => (s, none)
    | some (env, layer, notes) =>
      ({ s with
          env := env
          layers := s.layers.set height layer
          journal := (notes.map (Prod.mk height)).reverse ++ s.journal },
        (notes.findSome? Cache.Note.answer?).map fun (_, _, outcome) => outcome)

/-- Call the source for a round of the innermost cache. -/
def callSource (src : Source σ κ α) (key : κ) (round : Nat) (s : State σ κ α) : State σ κ α :=
  let (fetch, memory) := src.call s.memory key s.env.now
  { s with
    memory := memory
    called := s.called ++ [key]
    fetches := s.fetches.insert round fetch }

/-- The first look of a request, if it has not been taken. -/
def look (describe : κ → String) (height : Nat) (c : Caller) (key : κ) (s : State σ κ α) :
    State σ κ α × Option (Outcome (Resource α)) :=
  match s.stage? height c with
  | none => s.apply describe height (.look c key)
  | some _ => (s, none)

/-- The second look of a request, if it is to be taken, and the call of the source where it starts
a round of the innermost cache.  The last part says whether a round was started. -/
def decide (describe : κ → String) (src : Source σ κ α) (height : Nat) (c : Caller) (key : κ)
    (s : State σ κ α) : State σ κ α × Option (Outcome (Resource α)) × Bool :=
  match s.stage? height c with
  | some (.undecided _) =>
    let started (s : State σ κ α) := (s.layers[height]?.map Cache.State.started).getD 0
    let next := started s
    let (s, answer) := s.apply describe height (.decide c)
    if next < started s then
      (if height = 0 then s.callSource src key next else s, answer, true)
    else (s, answer, false)
  | _ => (s, none, false)

/-- The outcome of a finished round goes to its caller. -/
def settle (describe : κ → String) (height : Nat) (c : Caller) (s : State σ κ α) :
    State σ κ α × Progress α :=
  match s.apply describe height (.settle c) with
  | (s, some outcome) => (s, .answered outcome)
  | (s, none) => (s, .held)

/-- Carry the request of a caller forward as far as it can go.  With `hold` the outcome of a fetch
that was called on the way is not taken up. -/
def poll (describe : κ → String) (src : Source σ κ α) (hold : Bool) :
    Nat → Caller → κ → State σ κ α → State σ κ α × Progress α
  | height, c, key, s =>
    match s.look describe height c key with
    | (s, some outcome) => (s, .answered outcome)
    | (s, none) =>
      match s.decide describe src height c key with
      | (s, some outcome, _) => (s, .answered outcome)
      | (s, none, started) =>
        match s.stage? height c with
        | some (.awaiting _ round) =>
          match s.layers[height]?.bind fun layer => layer.outcome? round with
          | some _ => s.settle describe height c
          | none =>
            match height with
            | 0 =>
              match s.fetches.get? round with
              | some fetch =>
                if fetch.due ≤ s.env.now then
                  let (env, ending) := fetch.ending s.env
                  let s := { s with env := env, fetches := s.fetches.erase round }
                  let (s, _) := s.apply describe 0 (.finish round ending)
                  if fetch.severs then (s, .severed)
                  else if hold && started then (s, .held)
                  else s.settle describe 0 c
                else (s, .waiting fetch.due)
              | none => (s, .held)
            | below + 1 =>
              match poll describe src hold below (.round round) key s with
              | (s, .answered outcome) =>
                let result := outcome.mapError Failure.ofResourceError
                let (s, _) := s.apply describe (below + 1) (.finish round (.returned result))
                s.settle describe (below + 1) c
              | (s, progress) => (s, progress)
        | _ => (s, .held)

/-- The request of a client goes away unanswered. -/
def drop (describe : κ → String) (height : Nat) (c : Caller) (s : State σ κ α) : State σ κ α :=
  (s.apply describe height (.drop c)).1

end State
end Stack
end SingleFlight
