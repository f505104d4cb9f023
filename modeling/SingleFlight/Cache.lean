import SingleFlight.Failure
import SingleFlight.Log
import SingleFlight.Metrics
import SingleFlight.Resource
import SingleFlight.Table

/-!
The keyed cache: one fetch at a time for each key, shared by all who wait for it.

A `State` holds a table with a slot for each key, what is known of the rounds started so far, and
the callers whose requests have not been answered.  A round is one fetch; it runs until it has an
outcome.  A slot is `ready` with the resource of some round, or `inFlight` with a round whose
outcome nobody has put into the table yet, whether it still runs or not.

A request goes through the table twice.  Its first look serves a valid resource or joins a running
round.  If it can do neither it decides on a second look, at which it may also promote the outcome
of a finished round, or start a round of its own.  A caller that awaits a round settles it: the
first to do so puts the outcome into the table, and each takes the outcome with it.  `step` says
what each move of a caller, and the end of a fetch, does to the state and what it makes known.
-/

namespace SingleFlight
namespace Cache

/-- The entry of one key. -/
inductive Slot (α : Type) where
  /-- The resource that a round fetched; it may have become invalid since. -/
  | ready (round : Nat) (resource : Resource α)
  /-- A round that has not been settled. -/
  | inFlight (round : Nat)
deriving DecidableEq

/-- The round that an entry stems from. -/
def Slot.round {α : Type} : Slot α → Nat
  | ready round _ => round
  | inFlight round => round

/-- One fetch, and its outcome once it has ended. -/
structure Round (κ α : Type) where
  key : κ
  startedAt : Nat
  outcome : Option (Outcome (Resource α))

/-- How far a request has come. -/
inductive Stage (κ : Type) where
  /-- Its first look found nothing to serve or join. -/
  | undecided (key : κ)
  /-- It waits for a round, or has yet to settle it. -/
  | awaiting (key : κ) (round : Nat)
deriving DecidableEq

/-- What is known of each round, after `r` has become known of round number `n`. -/
def Round.store {κ α : Type} (rounds : Nat → Option (Round κ α)) (n : Nat) (r : Round κ α)
    (m : Nat) : Option (Round κ α) :=
  if m = n then some r else rounds m

@[simp]
theorem Round.store_self {κ α : Type} (rounds : Nat → Option (Round κ α)) (n : Nat)
    (r : Round κ α) : Round.store rounds n r n = some r := if_pos rfl

theorem Round.store_of_ne {κ α : Type} (rounds : Nat → Option (Round κ α)) {m n : Nat}
    (r : Round κ α) (h : m ≠ n) : Round.store rounds n r m = rounds m := if_neg h

/-- Callers are named by `ι`, keys by `κ`, and rounds by the number of rounds before them.  What is
known of rounds is a function, because a run only ever looks up and replaces single rounds. -/
structure State (ι κ α : Type) where
  entries : Table κ (Slot α)
  /-- The number of rounds started so far. -/
  started : Nat
  rounds : Nat → Option (Round κ α)
  callers : Table ι (Stage κ)

inductive Event (ι κ α : Type) where
  /-- A new request takes its first look. -/
  | look (caller : ι) (key : κ)
  /-- An undecided request takes its second look. -/
  | decide (caller : ι)
  /-- A fetch that somebody waits for ends. -/
  | finish (round : Nat) (ending : Ending (Resource α))
  /-- A caller whose round has ended settles it and is answered. -/
  | settle (caller : ι)
  /-- A caller goes away before it is answered. -/
  | drop (caller : ι)

/-- Where a request was served or joined. -/
inductive Path where
  | firstLook
  | secondLook
  /-- On the second look, from a round that had ended and was not settled. -/
  | promotion
deriving DecidableEq, Repr

/-- What a step makes known. -/
inductive Note (ι κ α : Type) where
  | hit (key : κ) (path : Path)
  | joined (key : κ) (round : Nat) (path : Path)
  /-- A round was started, and its fetch with it. -/
  | missed (key : κ) (round : Nat)
  | finished (key : κ) (round : Nat) (elapsed : Nat) (outcome : Outcome (Resource α))
  | answered (caller : ι) (key : κ) (round : Nat) (outcome : Outcome (Resource α))

namespace State

variable {ι κ α : Type} [DecidableEq ι] [DecidableEq κ]

def empty : State ι κ α :=
  { entries := Table.empty, started := 0, rounds := fun _ => none, callers := Table.empty }

/-- Whether the round has been started and has not ended. -/
def isRunning (s : State ι κ α) (round : Nat) : Bool :=
  match s.rounds round with
  | some r => r.outcome.isNone
  | none => false

/-- The outcome of a round that has ended. -/
def outcome? (s : State ι κ α) (round : Nat) : Option (Outcome (Resource α)) :=
  (s.rounds round).bind Round.outcome

/-- Whether some caller waits for the round. -/
def isAwaited (s : State ι κ α) (round : Nat) : Bool :=
  s.callers.rows.any fun row =>
    match row.2 with
    | .awaiting _ r => r == round
    | .undecided _ => false

/-- The number of keys with an entry. -/
def size (s : State ι κ α) : Nat := s.entries.size

def isEmpty (s : State ι κ α) : Bool := s.size == 0

/-- The caller waits for the round from now on. -/
def await (s : State ι κ α) (caller : ι) (key : κ) (round : Nat) : State ι κ α :=
  { s with callers := s.callers.insert caller (.awaiting key round) }

/-- The caller's request is over. -/
def leave (s : State ι κ α) (caller : ι) : State ι κ α :=
  { s with callers := s.callers.erase caller }

/-- Start a round for the key, with the caller waiting for it. -/
def startRound (s : State ι κ α) (now : Nat) (caller : ι) (key : κ) : State ι κ α :=
  { entries := s.entries.insert key (.inFlight s.started)
    started := s.started + 1
    rounds := Round.store s.rounds s.started { key := key, startedAt := now, outcome := none }
    callers := s.callers.insert caller (.awaiting key s.started) }

/-- Put the outcome of a round into the table, if the entry of the key still is that round's. -/
def settleEntry (entries : Table κ (Slot α)) (key : κ) (round : Nat)
    (outcome : Outcome (Resource α)) : Table κ (Slot α) :=
  match entries.get? key with
  | some (.inFlight r) =>
    if r = round then
      match outcome with
      | .ok resource => entries.insert key (.ready round resource)
      | .error _ => entries.erase key
    else entries
  | _ => entries

end State

/-- The surroundings and the state after a step, and what the step made known. -/
abbrev Result (ι κ α : Type) := Surroundings × State ι κ α × List (Note ι κ α)

section Step

variable {ι κ α : Type} [DecidableEq ι] [DecidableEq κ]

/-- The first look: a valid resource is served, a running round is joined. -/
def firstLook (env : Surroundings) (s : State ι κ α) (caller : ι) (key : κ) : Result ι κ α :=
  match s.entries.get? key with
  | some (.ready round resource) =>
    match resource.validity.check env with
    | (true, env) =>
      (env, s, [.hit key .firstLook, .answered caller key round (.ok resource)])
    | (false, env) =>
      (env, { s with callers := s.callers.insert caller (.undecided key) }, [])
  | some (.inFlight round) =>
    if s.isRunning round then
      (env, s.await caller key round, [.joined key round .firstLook])
    else (env, { s with callers := s.callers.insert caller (.undecided key) }, [])
  | none => (env, { s with callers := s.callers.insert caller (.undecided key) }, [])

/-- A round of the caller's own. -/
def miss (env : Surroundings) (s : State ι κ α) (caller : ι) (key : κ) : Result ι κ α :=
  (env, s.startRound env.now caller key, [.missed key s.started])

/-- The second look.  A round that ended well and was not settled is promoted if its resource is
valid; then as on the first look; and if nothing can be served or joined a round is started.

The program asks a round twice during this look whether it has ended, first to promote it and then
to join it.  Here a look is one step, and both answers are those of the same moment.  A round that
ends between the two, as it can where callers run in parallel, is found running first and ended
then, and gives way to a round of the caller's own as one that failed does. -/
def secondLook (env : Surroundings) (s : State ι κ α) (caller : ι) (key : κ) : Result ι κ α :=
  match s.entries.get? key with
  | some (.ready round resource) =>
    match resource.validity.check env with
    | (true, env) =>
      (env, s.leave caller, [.hit key .secondLook, .answered caller key round (.ok resource)])
    | (false, env) => miss env s caller key
  | some (.inFlight round) =>
    if s.isRunning round then
      (env, s.await caller key round, [.joined key round .secondLook])
    else
      match s.outcome? round with
      | some (.ok resource) =>
        match resource.validity.check env with
        | (true, env) =>
          (env, { s.leave caller with entries := s.entries.insert key (.ready round resource) },
            [.hit key .promotion, .answered caller key round (.ok resource)])
        | (false, env) => miss env s caller key
      | _ => miss env s caller key
  | none => miss env s caller key

/-- One step, or nothing where the event cannot happen.  `describe` is the text under which the
parameters of a key appear in errors. -/
def step (describe : κ → String) (env : Surroundings) (s : State ι κ α) :
    Event ι κ α → Option (Result ι κ α)
  | .look caller key =>
    match s.callers.get? caller with
    | none => some (firstLook env s caller key)
    | some _ => none
  | .decide caller =>
    match s.callers.get? caller with
    | some (.undecided key) => some (secondLook env s caller key)
    | _ => none
  | .finish round ending =>
    match s.rounds round with
    | some r =>
      if r.outcome.isNone && s.isAwaited round then
        let outcome := ending.outcome (describe r.key)
        some (env,
          { s with rounds := Round.store s.rounds round { r with outcome := some outcome } },
          [.finished r.key round (env.now - r.startedAt) outcome])
      else none
    | none => none
  | .settle caller =>
    match s.callers.get? caller with
    | some (.awaiting key round) =>
      match s.outcome? round with
      | some outcome =>
        some (env,
          { s.leave caller with entries := State.settleEntry s.entries key round outcome },
          [.answered caller key round outcome])
      | none => none
    | _ => none
  | .drop caller =>
    match s.callers.get? caller with
    | some _ => some (env, s.leave caller, [])
    | none => none

end Step

/-! ## Measurements and records -/

namespace Note

variable {ι κ α : Type}

/-- The answer that a note gives, and whose it is. -/
def answer? : Note ι κ α → Option (ι × Nat × Outcome (Resource α))
  | answered caller _ round outcome => some (caller, round, outcome)
  | _ => none

/-- What is counted for a cache of this name. -/
def metrics (name : String) : Note ι κ α → List Metrics.Event
  | hit _ _ => [.requests name "hit" 1]
  | joined _ _ _ => [.requests name "joined" 1]
  | missed _ _ => [.requests name "miss" 1, .fetches name 1]
  | finished _ _ elapsed (.ok _) => [.duration name elapsed]
  | finished _ _ elapsed (.error e) => [.duration name elapsed, .failures name e.kind.label 1]
  | answered _ _ _ _ => []

/-- The part of the program that writes the records. -/
def target : String := "resource_cache::cache::resource_cache"

/-- What is logged for a cache of this name. -/
def records (name : String) (describe : κ → String) : Note ι κ α → List Log.Record
  | hit key .firstLook =>
    [{ level := .debug, target := target, message := "cache hit for " ++ describe key,
       fields := [("cache", .label name)] }]
  | joined key round .firstLook =>
    [{ level := .debug, target := target,
       message := "joined in-flight fetch for " ++ describe key,
       fields := [("cache", .label name), ("round", .number round)] }]
  | missed key _ =>
    [{ level := .info, target := target, message := "fetching resource for " ++ describe key,
       fields := [("cache", .label name)] }]
  | finished _ _ _ (.error e) =>
    [{ level := .warn, target := target, message := "fetch failed: " ++ e.message,
       fields := [("cache", .label name)] }]
  | _ => []

end Note
end Cache
end SingleFlight
