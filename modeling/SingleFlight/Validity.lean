import SingleFlight.Text.Outline
import SingleFlight.Time

/-!
When a resource may still be served.

A validity is a rule and not an answer: it is evaluated whenever somebody looks, against the
`Surroundings` of that moment.  Most rules give one answer at one moment.  A `tape` does not: each
evaluation reads its next answer, and so changes the surroundings for those that come after.
-/

namespace SingleFlight

/-- What the world says when a validity is evaluated: the instant, the flags that do not hold, and
the answers that each tape has left. -/
structure Surroundings where
  now : Nat
  lowered : List String
  tapes : List (List Bool)
deriving DecidableEq, Repr

namespace Surroundings

/-- The clock at its start, all flags up. -/
def start : Surroundings := { now := 0, lowered := [], tapes := [] }

/-- Flags hold until they are lowered. -/
def holds (env : Surroundings) (flag : String) : Bool := !env.lowered.contains flag

def setFlag (env : Surroundings) (flag : String) (up : Bool) : Surroundings :=
  { env with
    lowered := if up then env.lowered.filter (· ≠ flag) else flag :: env.lowered }

/-- Time moves on, and nothing else changes. -/
def pass (env : Surroundings) (d : Nat) : Surroundings := { env with now := env.now + d }

/-- A tape with these answers, the last of which repeats. -/
def addTape (env : Surroundings) (answers : List Bool) : Surroundings × Nat :=
  ({ env with tapes := env.tapes ++ [answers] }, env.tapes.length)

/-- The next answer of a tape.  A tape without answers always says yes. -/
def readTape (env : Surroundings) (tape : Nat) : Bool × Surroundings :=
  match env.tapes[tape]? with
  | some (answer :: next :: rest) =>
    (answer, { env with tapes := env.tapes.set tape (next :: rest) })
  | some [answer] => (answer, env)
  | _ => (true, env)

end Surroundings

inductive Validity where
  /-- For ever. -/
  | permanent
  /-- Strictly before the instant. -/
  | expiresAt (due : Nat)
  /-- While the flag holds. -/
  | flag (name : String)
  /-- As the tape says, evaluation by evaluation. -/
  | tape (index : Nat)
deriving DecidableEq, Repr

namespace Validity

/-- Evaluate once. -/
def check (v : Validity) (env : Surroundings) : Bool × Surroundings :=
  match v with
  | permanent => (true, env)
  | expiresAt due => (decide (env.now < due), env)
  | flag name => (env.holds name, env)
  | tape index => env.readTape index

/-- A rule that gives one answer at one moment. -/
def isSteady : Validity → Bool
  | tape _ => false
  | _ => true

/-- The instant from which the rule says no, where it names one. -/
def expiry? : Validity → Option Nat
  | expiresAt due => some due
  | _ => none

/-- A steady rule leaves the surroundings as they are. -/
theorem check_snd_of_isSteady {v : Validity} (h : v.isSteady = true) (env : Surroundings) :
    (v.check env).2 = env := by
  cases v <;> simp_all [check, isSteady]

/-- Evaluation never moves the clock. -/
theorem check_now (v : Validity) (env : Surroundings) : (v.check env).2.now = env.now := by
  cases v with
  | tape i =>
    simp only [check, Surroundings.readTape]
    split <;> rfl
  | _ => rfl

theorem check_expiresAt {due : Nat} {env : Surroundings} :
    ((expiresAt due).check env).1 = true ↔ env.now < due := by
  simp [check]

/-- How the rule is shown; an instant has no form of its own. -/
def outline : Validity → Text.Outline
  | permanent => .leaf "Permanent"
  | expiresAt _ => .tagged "ExpiresAt" (.leaf "<instant>")
  | flag _ => .leaf "Check(..)"
  | tape _ => .leaf "Check(..)"

end Validity

/-- A rule as it is asked for, before there is a resource: spans count from the moment at which the
resource is made, and a tape is laid then. -/
inductive ValidityPlan where
  | permanent
  | expiresIn (lifetime : Nat)
  | flag (name : String)
  | tape (answers : List Bool)
deriving DecidableEq, Repr

def ValidityPlan.make (plan : ValidityPlan) (env : Surroundings) : Surroundings × Validity :=
  match plan with
  | permanent => (env, .permanent)
  | expiresIn lifetime => (env, .expiresAt (env.now + lifetime))
  | flag name => (env, .flag name)
  | tape answers =>
    let (env, index) := env.addTape answers
    (env, .tape index)

end SingleFlight
