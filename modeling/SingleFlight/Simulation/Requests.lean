import SingleFlight.Stack

/-!
Requests to a stack of caches under a virtual clock.

The clock stands still while anything can run and jumps to the next instant at which a fetch can
end when everything waits.  Tasks make requests of their own while the main line of the run takes
one step after another.  What is due at an instant is carried forward, in the order in which the
tasks were started, until nothing moves.
-/

namespace SingleFlight
namespace Simulation

/-- An answer, and whether its resource was still valid when it was looked at. -/
abbrev Reply (α : Type) := Except ResourceError (Resource α × Bool)

inductive Status where
  | running
  | ended
  | cancelled
deriving DecidableEq, Repr

/-- A task makes requests for one key, one after another. -/
structure Task (κ α : Type) where
  name : String
  key : κ
  /-- Requests that have not been answered. -/
  remaining : Nat
  /-- The answers so far and their instants. -/
  outcomes : List (Nat × Outcome (Resource α))
  status : Status
  /-- The instant before which its request cannot go on, if it waits for one. -/
  due : Option Nat
  /-- Whether its end has been told. -/
  told : Bool

structure Scene (σ κ α : Type) where
  stack : Stack.State σ κ α
  /-- In the order of their start; the client of task `i` is number `i + 1`. -/
  tasks : List (Task κ α)

/-- What a scene is played with: the caches, and the source below them. -/
structure Setting (σ κ α : Type) where
  describe : κ → String
  source : Source σ κ α
  /-- The number of caches above the innermost. -/
  height : Nat

namespace Scene

variable {σ κ α : Type} [DecidableEq κ]

def start (setting : Setting σ κ α) (memory : σ) : Scene σ κ α :=
  { stack := Stack.State.start setting.height memory, tasks := [] }

/-- The client of the main line. -/
def mainClient : Stack.Caller := .client 0

def taskClient (i : Nat) : Stack.Caller := .client (i + 1)

def now (s : Scene σ κ α) : Nat := s.stack.env.now

/-- Look at an answer: its validity is evaluated once more. -/
def reply (s : Scene σ κ α) (outcome : Outcome (Resource α)) : Scene σ κ α × Reply α :=
  match outcome with
  | .ok r =>
    let (valid, env) := r.validity.check s.stack.env
    ({ s with stack := { s.stack with env := env } }, .ok (r, valid))
  | .error e => (s, .error e)

def setTask (s : Scene σ κ α) (i : Nat) (f : Task κ α → Task κ α) : Scene σ κ α :=
  { s with tasks := s.tasks.modify i f }

/-- A task goes away, with what it has. -/
def cancelAt (setting : Setting σ κ α) (s : Scene σ κ α) (i : Nat) : Scene σ κ α :=
  match s.tasks[i]? with
  | some task =>
    if task.status = .running then
      { s with stack := s.stack.drop setting.describe setting.height (taskClient i) }.setTask i
        fun t => { t with status := .cancelled, due := none }
    else s
  | none => s

/-- All tasks of a key go away. -/
def sever (setting : Setting σ κ α) (s : Scene σ κ α) (key : κ) : Scene σ κ α :=
  (List.range s.tasks.length).foldl (fun s i =>
    match s.tasks[i]? with
    | some task => if task.key = key then s.cancelAt setting i else s
    | none => s) s

/-- A task's request has been answered. -/
def record (s : Scene σ κ α) (i : Nat) (outcome : Outcome (Resource α)) : Scene σ κ α :=
  s.setTask i fun t =>
    { t with
      outcomes := t.outcomes ++ [(s.now, outcome)]
      remaining := t.remaining - 1
      status := if t.remaining ≤ 1 then .ended else .running
      due := none }

/-- Carry a task forward until it waits, holds back or ends; at most `budget` requests are answered
on the way. -/
def runTask (setting : Setting σ κ α) (hold : Bool) (i : Nat) (key : κ) :
    Nat → Scene σ κ α → Scene σ κ α
  | 0, s => s
  | budget + 1, s =>
    match s.stack.poll setting.describe setting.source hold setting.height (taskClient i) key with
    | (stack, .answered outcome) =>
      runTask setting hold i key budget ({ s with stack := stack }.record i outcome)
    | (stack, .waiting due) =>
      { s with stack := stack }.setTask i fun t => { t with due := some due }
    | (stack, .severed) => { s with stack := stack }.sever setting key
    | (stack, .held) => { s with stack := stack }

/-- Carry a task forward if it still runs. -/
def advanceTask (setting : Setting σ κ α) (hold : Bool) (s : Scene σ κ α) (i : Nat) :
    Scene σ κ α :=
  match s.tasks[i]? with
  | some task =>
    if task.status = .running then s.runTask setting hold i task.key task.remaining else s
  | none => s

/-- The requests of running tasks that have not been answered. -/
def outstanding (s : Scene σ κ α) : Nat :=
  s.tasks.foldl (fun n t => if t.status = .running then n + t.remaining else n) 0

/-- Carry every task forward once. -/
def pass (setting : Setting σ κ α) (s : Scene σ κ α) : Scene σ κ α :=
  (List.range s.tasks.length).foldl (fun s i => s.advanceTask setting false i) s

/-- Carry the tasks forward until nothing moves.  Every pass but the last answers a request or takes
a task away, so there are at most as many passes as outstanding requests, and one more. -/
def quiesce (setting : Setting σ κ α) : Nat → Scene σ κ α → Scene σ κ α
  | 0, s => s
  | fuel + 1, s =>
    let s' := s.pass setting
    if s'.outstanding < s.outstanding then quiesce setting fuel s' else s'

def settleDown (setting : Setting σ κ α) (s : Scene σ κ α) : Scene σ κ α :=
  s.quiesce setting (s.outstanding + 1)

/-- The earliest instant that a running task waits for. -/
def nextDue? (s : Scene σ κ α) : Option Nat :=
  (s.tasks.filterMap Task.due).min?

def moveTo (s : Scene σ κ α) (instant : Nat) : Scene σ κ α :=
  { s with stack := { s.stack with env := { s.stack.env with now := instant } } }

/-- Let time pass until an instant, doing what is due on the way.  Every stop on the way answers a
request or takes a task away. -/
def advanceTo (setting : Setting σ κ α) (instant : Nat) : Nat → Scene σ κ α → Scene σ κ α
  | 0, s => (s.moveTo instant).settleDown setting
  | fuel + 1, s =>
    match s.nextDue? with
    | some due =>
      if due ≤ instant then
        advanceTo setting instant fuel ((s.moveTo (max due s.now)).settleDown setting)
      else (s.moveTo instant).settleDown setting
    | none => (s.moveTo instant).settleDown setting

def advance (setting : Setting σ κ α) (s : Scene σ κ α) (d : Nat) : Scene σ κ α :=
  s.advanceTo setting (s.now + d) s.outstanding

/-- A request of the main line at a height, carried to its answer; time passes while it waits.
Every turn moves time to the next instant at which a fetch can end, or answers a task's request, or
takes tasks away. -/
def await (setting : Setting σ κ α) (height : Nat) (key : κ) :
    Nat → Scene σ κ α → Scene σ κ α × Option (Outcome (Resource α))
  | 0, s => (s, none)
  | fuel + 1, s =>
    match s.stack.poll setting.describe setting.source false height mainClient key with
    | (stack, .answered outcome) => ({ s with stack := stack }, some outcome)
    | (stack, .severed) =>
      await setting height key fuel ({ s with stack := stack }.sever setting key)
    | (stack, .held) => ({ s with stack := stack }, none)
    | (stack, .waiting due) =>
      let s := { s with stack := stack }
      let s' := s.settleDown setting
      if s'.outstanding < s.outstanding then await setting height key fuel s'
      else
        let next := match s'.nextDue? with
          | some other => min due other
          | none => due
        await setting height key fuel (s'.moveTo next)

/-- One request of the main line. -/
def request (setting : Setting σ κ α) (height : Nat) (key : κ) (s : Scene σ κ α) :
    Scene σ κ α × Option (Reply α) :=
  match s.await setting height key (2 * s.outstanding + 4) with
  | (s, some outcome) =>
    let (s, r) := s.reply outcome
    (s.settleDown setting, some r)
  | (s, none) => (s, none)

/-- A task to be started: its requests, and whether it is to stand back after its first look. -/
structure Start (κ : Type) where
  name : String
  key : κ
  times : Nat
  stall : Bool

def add (s : Scene σ κ α) (t : Start κ) : Scene σ κ α :=
  { s with
    tasks := s.tasks ++
      [{ name := t.name, key := t.key, remaining := t.times, outcomes := []
         status := if t.times = 0 then .ended else .running, due := none, told := false }] }

def spawn (setting : Setting σ κ α) (s : Scene σ κ α) (t : Start κ) : Scene σ κ α :=
  (s.add t).settleDown setting

/-- The first turn of a task that was started with others: one that stalls only looks, and any other
goes on until a fetch of its own has been called and has run as far as it can. -/
def firstTurn (setting : Setting σ κ α) (s : Scene σ κ α) (i : Nat) (t : Start κ) : Scene σ κ α :=
  if t.stall then
    match s.stack.look setting.describe setting.height (taskClient i) t.key with
    | (stack, some outcome) => { s with stack := stack }.record i outcome
    | (stack, none) => { s with stack := stack }
  else s.advanceTask setting true i

/-- Tasks that are started together.  If one of them stalls, each takes a first turn before any of
them goes on. -/
def race (setting : Setting σ κ α) (s : Scene σ κ α) (ts : List (Start κ)) : Scene σ κ α :=
  let first := s.tasks.length
  let s := ts.foldl add s
  if ts.any Start.stall then
    (ts.zipIdx.foldl (fun s (t, i) => s.firstTurn setting (first + i) t) s).settleDown setting
  else s.settleDown setting

/-- The latest running task of the name goes away. -/
def cancel (setting : Setting σ κ α) (s : Scene σ κ α) (name : String) : Scene σ κ α :=
  let running := (List.range s.tasks.length).filter fun i =>
    match s.tasks[i]? with
    | some t => t.name == name && t.status = .running
    | none => false
  match running.getLast? with
  | some i => (s.cancelAt setting i).settleDown setting
  | none => s.settleDown setting

def setFlag (setting : Setting σ κ α) (s : Scene σ κ α) (flag : String) (up : Bool) :
    Scene σ κ α :=
  { s with stack := { s.stack with env := s.stack.env.setFlag flag up } }.settleDown setting

/-- A task that has ended, with its answers as they were looked at. -/
structure Report (α : Type) where
  name : String
  cancelled : Bool
  replies : List (Nat × Reply α)

/-- Look at the answers of a task that has ended. -/
def report (s : Scene σ κ α) (t : Task κ α) : Scene σ κ α × Report α :=
  let (s, replies) := t.outcomes.foldl (fun (s, replies) (instant, outcome) =>
    let (s, r) := reply s outcome
    (s, replies ++ [(instant, r)])) (s, [])
  (s, { name := t.name, cancelled := t.status = .cancelled, replies := replies })

/-- The tasks that have ended since this was last asked, by name. -/
def takeEnded (s : Scene σ κ α) : Scene σ κ α × List (Report α) :=
  let ended := (s.tasks.filter fun t => t.status ≠ .running && !t.told).mergeSort
    fun a b => a.name ≤ b.name
  let s := { s with
    tasks := s.tasks.map fun t => if t.status ≠ .running then { t with told := true } else t }
  ended.foldl (fun (s, reports) t =>
    let (s, r) := report s t
    (s, reports ++ [r])) (s, [])

/-- The names of the tasks that have not ended, in order. -/
def waiting (s : Scene σ κ α) : List String :=
  ((s.tasks.filter fun t => t.status = .running).map Task.name).mergeSort fun a b => a ≤ b

/-- What was counted, for caches with these names from the innermost up. -/
def events (names : List String) (s : Scene σ κ α) : List Metrics.Event :=
  s.stack.journal.reverse.flatMap fun (height, note) => note.metrics (names.getD height "")

/-- What was logged. -/
def records (describe : κ → String) (names : List String) (s : Scene σ κ α) : List Log.Record :=
  s.stack.journal.reverse.flatMap fun (height, note) =>
    note.records (names.getD height "") describe

/-- The cache at a height. -/
def layer (s : Scene σ κ α) (height : Nat) : Cache.State Stack.Caller κ α :=
  s.stack.layers.getD height Cache.State.empty

end Scene
end Simulation
end SingleFlight
