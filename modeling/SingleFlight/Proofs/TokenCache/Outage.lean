import SingleFlight.Proofs.TokenCache.Attempts
import SingleFlight.Proofs.TokenCache.Cold

/-!
An outage of the source.

While the source fails the timer of a held token fires, its refresh calls the source, fails, and the
timer is armed again, until the token has expired.  All this happens when it is due if the clock
stands still while anybody has a move to make (`Punctual`), that is, if it moves only where nobody
can do anything but wait (`AtRest`).

Where the token has just been installed refreshes that do not count any more may be left over.  They
do not get far: as long as the token is not due its resource is in the table of the keyed cache
(`Kept`), and each of them is answered with it.
-/

namespace SingleFlight
namespace TokenCache

open State

/-! ## Time -/

/-- The instant for which a task sleeps. -/
def Task.alarm? : Task → Option Nat
  | sleeping firesAt => some firesAt
  | _ => none

/-- Whether the agent waits for a fetch. -/
def State.isWaiting (s : State) (a : Agent) : Bool :=
  match s.keyed.callers.get? a with
  | some (.awaiting _ round) => (s.keyed.outcome? round).isNone
  | _ => false

/-- Nobody can do anything before `later` but wait: whoever has the lock waits for a fetch, and so
does everybody whose request is under way, and no task sleeps that was cancelled or whose tick has
come. -/
structure AtRest (s : State) (later : Nat) : Prop where
  lock : ∀ a, s.holder = some a → s.mayRequest a = true
  fetches : ∀ a, s.mayRequest a = true → s.isWaiting a = true
  timers : ∀ t firesAt, s.tasks.get? t = some (.sleeping firesAt) →
    s.timer.map Timer.id = some t ∧ later ≤ Instant.tick firesAt

/-- The clock does not go back, and it moves only while everybody waits. -/
def Punctual (env : Surroundings) (s : State) (env' : Surroundings) : Prop :=
  env.now ≤ env'.now ∧ (env.now < env'.now → AtRest s env'.now)

/-- The fetch has failed, and not because of the configuration. -/
def Temporary : Except ResourceError Token → Prop
  | .ok _ => False
  | .error e => e.isConfiguration = false

/-- The source fails.  Callers read or have timers turned on, and come before the token has expired,
timers fire on ticks, and somebody keeps a handle. -/
def Outage (cfg : Config) (expiry : Nat) (env : Surroundings) (s : State) : Event → Prop
  | .enter _ wish => wish ≠ .stop ∧ env.now < expiry
  | .fire t => ∀ firesAt ∈ (s.tasks.get? t).bind Task.alarm?, Instant.tick firesAt ≤ env.now
  | .keyed (.finish _ ending) => Temporary (received cfg env.now ending)
  | .dropHandle => 1 < s.handles
  | _ => True

section Decidable

theorem Task.alarm?_eq_some_iff {task : Task} {firesAt : Nat} :
    task.alarm? = some firesAt ↔ task = .sleeping firesAt := by
  cases task <;> simp [alarm?]

theorem State.isWaiting_iff {s : State} {a : Agent} : s.isWaiting a = true ↔ ∃ key round,
    s.keyed.callers.get? a = some (.awaiting key round) ∧ s.keyed.outcome? round = none := by
  unfold isWaiting
  split <;> simp_all

/-- Only who is in the tables has a request to make. -/
theorem State.forall_mayRequest {s : State} {P : Agent → Prop} :
    (∀ a, s.mayRequest a = true → P a) ↔
      (∀ row ∈ s.callers.rows, s.mayRequest (.caller row.1) = true → P (.caller row.1)) ∧
        ∀ row ∈ s.tasks.rows, s.mayRequest (.refresh row.1) = true → P (.refresh row.1) := by
  refine ⟨fun h => ⟨fun row _ => h _, fun row _ => h _⟩, fun ⟨callers, tasks⟩ a requests => ?_⟩
  cases a with
  | caller n =>
    exact callers _ (Table.get?_eq_some_iff.1 (mayRequest_caller.1 requests)) requests
  | refresh t =>
    exact tasks _ (Table.get?_eq_some_iff.1 (mayRequest_refresh.1 requests)) requests

/-- Only who is in the tables has anything to do. -/
theorem atRest_iff {s : State} {later : Nat} :
    ((∀ a ∈ s.holder, s.mayRequest a = true) ∧
      (∀ row ∈ s.callers.rows,
        s.mayRequest (.caller row.1) = true → s.isWaiting (.caller row.1) = true) ∧
      ∀ row ∈ s.tasks.rows,
        (s.mayRequest (.refresh row.1) = true → s.isWaiting (.refresh row.1) = true) ∧
        ∀ firesAt ∈ row.2.alarm?,
          s.timer.map Timer.id = some row.1 ∧ later ≤ Instant.tick firesAt) ↔
      AtRest s later := by
  constructor
  · rintro ⟨lock, callers, tasks⟩
    refine ⟨lock, forall_mayRequest.2 ⟨callers, fun row there => (tasks row there).1⟩, ?_⟩
    intro t firesAt sleeping
    exact (tasks _ (Table.get?_eq_some_iff.1 sleeping)).2 firesAt rfl
  · intro rest
    refine ⟨rest.lock, fun row _ => rest.fetches _, fun row there => ⟨rest.fetches _, ?_⟩⟩
    intro firesAt alarm
    refine rest.timers row.1 firesAt (Table.get?_eq_some_iff.2 ?_)
    rw [← Task.alarm?_eq_some_iff.1 alarm]
    exact there

instance (s : State) (later : Nat) : Decidable (AtRest s later) := decidable_of_iff _ atRest_iff

instance : ∀ result, Decidable (Temporary result)
  | .ok _ => inferInstanceAs (Decidable False)
  | .error e => inferInstanceAs (Decidable (e.isConfiguration = false))

instance (cfg : Config) (expiry : Nat) (env : Surroundings) (s : State) :
    ∀ e, Decidable (Outage cfg expiry env s e)
  | .enter _ wish => inferInstanceAs (Decidable (wish ≠ .stop ∧ env.now < expiry))
  | .fire t => inferInstanceAs (Decidable (∀ firesAt ∈ (s.tasks.get? t).bind Task.alarm?,
      Instant.tick firesAt ≤ env.now))
  | .keyed (.finish _ ending) =>
    inferInstanceAs (Decidable (Temporary (received cfg env.now ending)))
  | .dropHandle => inferInstanceAs (Decidable (1 < s.handles))
  | .keyed (.look _ _) | .keyed (.decide _) | .keyed (.settle _) | .keyed (.drop _) | .act _
  | .quit _ | .cancel _ | .addHandle => inferInstanceAs (Decidable True)

end Decidable

section Kept

variable {cfg : Config} {env env' : Surroundings} {s s' : State} {e : Event} {notes : List Note}
  {a : Agent} {h : Held} {later : Nat}

/-- Where no reader fetches, nobody is in line for the lock. -/
theorem AtRest.nobody (rest : AtRest s later) (inLine : InLine env.now s)
    (idle : ∀ n, s.callers.get? n ≠ some .fetching) (a : Agent) : ¬ s.Asks a := by
  intro asks
  obtain ⟨b, holds⟩ := inLine.taken asks
  have requests := rest.lock b holds
  have asks' := (inLine.asks b).1 (by rw [line_of_holder holds]; exact .head _)
  cases b with
  | caller n => exact idle n (mayRequest_caller.1 requests)
  | refresh t =>
    obtain ⟨round, outcome, returned⟩ := asks'
    cases returned.symm.trans (mayRequest_refresh.1 requests)

/-! ## What the keyed cache keeps -/

/-- All rounds are for the parameters of the cache, and what they fetched is in the table while it
is valid. -/
structure Kept (cfg : Config) (now : Nat) (k : Cache.State Agent ParameterSet Token) : Prop where
  keys : ∀ n r, k.rounds n = some r → r.key = cfg.parameters
  stored : ∀ n r due, k.outcome? n = some (.ok r) → r.validity = .expiresAt due → now < due →
    k.Stored cfg.parameters n r

theorem Forward.round_key (forward : Forward cfg env.now s)
    {ke : Cache.Event Agent ParameterSet Token} {k : Cache.State Agent ParameterSet Token}
    {known : List (Cache.Note Agent ParameterSet Token)}
    (t : Cache.Transition ParameterSet.text env s.keyed (arriving cfg env.now ke) env' k known)
    (keys : ∀ n r, s.keyed.rounds n = some r → r.key = cfg.parameters) (n : Nat)
    (r : Cache.Round ParameterSet Token) (hr : k.rounds n = some r) : r.key = cfg.parameters := by
  generalize arriving cfg env.now ke = arrived at t
  cases t with
  | hit _ _ _ | join _ _ _ | defer _ _ _ | promote _ _ _ _ | settle _ _ | drop _ =>
    exact keys n r hr
  | miss undecided _ _ _ =>
    by_cases new : n = s.keyed.started
    · subst new
      obtain rfl := Option.some.inj ((Cache.Round.store_self _ _ _).symm.trans hr)
      exact forward.keys _ _ undecided
    · exact keys n r ((Cache.Round.store_of_ne _ _ new).symm.trans hr)
  | @finish m r' _ hr' _ _ =>
    by_cases same : n = m
    · subst same
      obtain rfl := Option.some.inj ((Cache.Round.store_self _ _ _).symm.trans hr)
      exact keys n r' hr'
    · exact keys n r ((Cache.Round.store_of_ne _ _ same).symm.trans hr)

theorem Transition.kept (t : Transition cfg env s e env' s' notes) (forward : Forward cfg env.now s)
    (kept : Kept cfg env.now s.keyed) : Kept cfg env.now s'.keyed := by
  refine t.keyed_keeps kept (fun _ => ⟨kept.keys, kept.stored⟩) fun ke known permits t =>
    ⟨forward.round_key t kept.keys, fun n r due ended hvalidity early => ?_⟩
  have valid : (r.validity.check env).1 = true := by
    rw [hvalidity, Validity.check_expiresAt]
    exact early
  cases before : s.keyed.outcome? n with
  | some o =>
    obtain rfl := Option.some.inj ((t.outcome?_stays forward.coherent before).symm.trans ended)
    exact t.stored forward.coherent (kept.stored n r due before hvalidity early) valid
  | none =>
    obtain ⟨round, -, -, hround, -⟩ := (t.outcome?_cases ended).resolve_left (by simp [before])
    have unfinished : round.outcome = none := by
      simpa [Cache.State.outcome?, hround] using before
    rw [← kept.keys n round hround]
    exact t.arrives_stored forward.coherent hround unfinished ended

theorem run_kept {moves : List (Move State Event Note)}
    (run : (system cfg Clock).Run moves env s) : Kept cfg env.now s.keyed := by
  obtain ⟨env₀, path⟩ := run
  induction path with
  | nil => exact ⟨nofun, nofun⟩
  | wait _ hle ih =>
    exact ⟨ih.keys, fun n r due ended hvalidity early =>
      ih.stored n r due ended hvalidity (Nat.lt_of_le_of_lt hle early)⟩
  | move path hs ih =>
    have t := step_transition hs
    rw [t.now]
    exact t.kept (run_forward ⟨_, path⟩) ih

/-- The resource of the held token is in the table until the token is due. -/
theorem Kept.held (kept : Kept cfg env.now s.keyed) (forward : Forward cfg env.now s)
    (hheld : s.held = some h) (early : env.now < h.refreshAt) :
    ∃ r, s.keyed.Stored cfg.parameters h.round r ∧ r.validity = .expiresAt h.refreshAt := by
  obtain ⟨r, ended, hvalidity, -⟩ := forward.due hheld
  exact ⟨r, kept.stored _ r _ ended hvalidity early, hvalidity⟩

/-- While a resource is in the table nobody waits for a fetch. -/
theorem Forward.outcome_of_stored (forward : Forward cfg env.now s) {n : Nat} {r : Resource Token}
    (stored : s.keyed.Stored cfg.parameters n r) {key : ParameterSet} {round : Nat}
    (awaits : s.keyed.callers.get? a = some (.awaiting key round)) :
    s.keyed.outcome? round ≠ none := by
  intro unfinished
  obtain ⟨known, hround, hkey⟩ := forward.coherent.awaited _ _ _ awaits
  obtain rfl : key = cfg.parameters := forward.keys _ _ awaits
  refine stored.not_running forward.coherent round ⟨known, hround, hkey, ?_⟩
  simpa [Cache.State.outcome?, hround] using unfinished

/-- Nobody waits for a fetch before the token is due. -/
theorem Kept.not_waiting (kept : Kept cfg env.now s.keyed) (forward : Forward cfg env.now s)
    (hheld : s.held = some h) (early : env.now < h.refreshAt) {key : ParameterSet} {round : Nat}
    (awaits : s.keyed.callers.get? a = some (.awaiting key round)) :
    s.keyed.outcome? round ≠ none := by
  obtain ⟨r, stored, -⟩ := kept.held forward hheld early
  exact forward.outcome_of_stored stored awaits

end Kept

/-- A fetch that ends in an outage has failed. -/
theorem Outage.failed {cfg : Config} {env : Surroundings} {s : State} {expiry round : Nat}
    {ke : Cache.Event Agent ParameterSet Token}
    {ending : Ending (Resource Token)} (outage : Outage cfg expiry env s (.keyed ke))
    (h : arriving cfg env.now ke = .finish round ending) :
    ∃ e, ending.outcome cfg.parameters.text = .error e ∧ e.isConfiguration = false := by
  cases ke with
  | look _ _ | decide _ | settle _ | drop _ => cases h
  | finish _ fetched =>
    cases h
    have temporary : Temporary (received cfg env.now fetched) := outage
    rw [received_eq] at temporary
    generalize (Token.windowed env.now cfg.lead fetched).outcome cfg.parameters.text = o
      at temporary ⊢
    cases o with
    | ok r => cases temporary
    | error e => exact ⟨e, rfl, temporary⟩

end TokenCache
end SingleFlight
