import SingleFlight.Proofs.Cache.Answers
import SingleFlight.Proofs.TokenCache.Transition

/-!
Timers and their tasks, callers and their requests.

Two things are invariant.  Whoever is at work in the keyed cache has a request to make: a caller
that fetches, or a task whose timer has fired (`Orderly.atWork`).  And the timer of the cache has a
task, which sleeps until the instant of the timer or has its refresh in flight (`Timed`).

The task of a timer may end in its sleep when nobody can reach the cache any more, so the latter
holds while somebody can.  Once nobody can, nobody ever will: `Transition.reachable_before`.
-/

namespace SingleFlight
namespace TokenCache

/-- The timer sleeps until its instant, or has fired and its refresh is in flight. -/
def Outstanding (tasks : Table Nat Task) (timer : Timer) : Prop :=
  tasks.get? timer.id = some (.sleeping timer.firesAt) ∨
    tasks.get? timer.id = some .requesting ∨
    ∃ round outcome, tasks.get? timer.id = some (.returned round outcome)

/-- Tasks carry the numbers of earlier timers, and the timer is outstanding. -/
structure Timed (timer : Option Timer) (tasks : Table Nat Task) (nextTimer : Nat) : Prop where
  numbered : ∀ t task, tasks.get? t = some task → t < nextTimer
  outstanding : ∀ tm, timer = some tm → Outstanding tasks tm

namespace Timed

variable {timer : Option Timer} {tasks : Table Nat Task} {nextTimer t : Nat}

theorem empty : Timed none .empty nextTimer := ⟨nofun, nofun⟩

theorem disarm (h : Timed timer tasks nextTimer) : Timed none tasks nextTimer :=
  ⟨h.numbered, nofun⟩

/-- A task goes on, awake. -/
theorem insert (h : Timed timer tasks nextTimer) {old task : Task} (had : tasks.get? t = some old)
    (awake : task.isSleeping = false) : Timed timer (tasks.insert t task) nextTimer where
  numbered t' task' h' := by
    rcases Table.get?_of_get?_insert h' with ⟨rfl, -⟩ | ⟨-, before⟩
    · exact h.numbered t old had
    · exact h.numbered t' task' before
  outstanding tm htm := by
    unfold Outstanding
    by_cases ht : t = tm.id
    · rw [← ht, Table.get?_insert_self]
      cases task with
      | sleeping _ => cases awake
      | requesting => exact .inr (.inl rfl)
      | returned round outcome => exact .inr (.inr ⟨round, outcome, rfl⟩)
    · rw [Table.get?_insert_of_ne ht]
      exact h.outstanding tm htm

/-- A task ends that is not the task of the timer. -/
theorem erase (h : Timed timer tasks nextTimer) (other : timer.map Timer.id ≠ some t) :
    Timed timer (tasks.erase t) nextTimer where
  numbered t' task h' := h.numbered t' task (Table.get?_of_get?_erase h').2
  outstanding tm htm := by
    have ht : t ≠ tm.id := by
      rintro rfl
      exact other (by rw [htm, Option.map_some])
    unfold Outstanding
    rw [Table.get?_erase_of_ne ht]
    exact h.outstanding tm htm

theorem arm {s : State} (h : Timed s.timer s.tasks s.nextTimer) (now firesAt : Nat) :
    Timed (s.arm now firesAt).1.timer (s.arm now firesAt).1.tasks
      (s.arm now firesAt).1.nextTimer := by
  rw [State.arm_fst]
  by_cases enabled : s.enabled = true
  · simp only [enabled, if_true]
    constructor
    · intro t task ht
      rcases Table.get?_of_get?_insert ht with ⟨rfl, -⟩ | ⟨-, before⟩
      · omega
      · have hlt := h.numbered t task before
        omega
    · intro tm htm
      obtain rfl : _ = tm := by simpa using htm
      exact .inl (Table.get?_insert_self _ _ _)
  · simp only [enabled]
    exact h

/-- A new timer has a new task. -/
theorem get?_arm {s : State} (h : Timed s.timer s.tasks s.nextTimer) {task : Task}
    (had : s.tasks.get? t = some task) (now firesAt : Nat) :
    (s.arm now firesAt).1.tasks.get? t = some task := by
  have hlt := h.numbered t task had
  rw [State.arm_fst]
  by_cases enabled : s.enabled = true
  · have hne : s.nextTimer ≠ t := by omega
    simp only [enabled, if_true]
    rw [Table.get?_insert_of_ne hne, had]
  · simpa [enabled] using had

/-- The task of an earlier timer ends after the timer was replaced. -/
theorem arm_erase {s : State} (h : Timed s.timer s.tasks s.nextTimer) (off : s.timer = none)
    (earlier : t < s.nextTimer) (now firesAt : Nat) :
    Timed (s.arm now firesAt).1.timer ((s.arm now firesAt).1.tasks.erase t)
      (s.arm now firesAt).1.nextTimer := by
  refine (h.arm now firesAt).erase ?_
  rw [State.arm_fst]
  intro same
  by_cases enabled : s.enabled = true
  · have hid : s.nextTimer = t := by simpa [enabled] using same
    omega
  · simp [enabled, off] at same

end Timed

namespace State

/-! ## Who can reach the cache -/

theorem isReachable_iff {s : State} : s.isReachable = true ↔
    0 < s.handles ∨ (∃ n stage, s.callers.get? n = some stage) ∨
      ∃ t task, s.tasks.get? t = some task ∧ task.isSleeping = false := by
  have hcallers : s.callers.rows ≠ [] ↔ ∃ n stage, s.callers.get? n = some stage := by
    constructor
    · intro h
      obtain ⟨⟨n, stage⟩, hm⟩ := List.exists_mem_of_ne_nil _ h
      exact ⟨n, stage, Table.get?_eq_some_iff.2 hm⟩
    · rintro ⟨n, stage, h⟩
      exact List.ne_nil_of_mem (Table.get?_eq_some_iff.1 h)
  have htasks : (s.tasks.rows.any fun row => !row.2.isSleeping) = true ↔
      ∃ t task, s.tasks.get? t = some task ∧ task.isSleeping = false := by
    rw [List.any_eq_true]
    constructor
    · rintro ⟨⟨t, task⟩, hm, h⟩
      exact ⟨t, task, Table.get?_eq_some_iff.2 hm, by simpa using h⟩
    · rintro ⟨t, task, h, awake⟩
      exact ⟨_, Table.get?_eq_some_iff.1 h, by simpa using awake⟩
  rw [isReachable, Bool.or_eq_true, Bool.or_eq_true, htasks, ← hcallers, or_assoc]
  simp

variable {s : State} {a : Agent} {n t : Nat}

theorem reachable_of_caller {stage : CallerStage} (h : s.callers.get? n = some stage) :
    s.isReachable = true :=
  isReachable_iff.2 (.inr (.inl ⟨n, stage, h⟩))

theorem reachable_of_task {task : Task} (h : s.tasks.get? t = some task)
    (awake : task.isSleeping = false) : s.isReachable = true :=
  isReachable_iff.2 (.inr (.inr ⟨t, task, h, awake⟩))

theorem reachable_of_mayRequest (h : s.mayRequest a = true) : s.isReachable = true := by
  cases a with
  | caller n => exact reachable_of_caller (mayRequest_caller.1 h)
  | refresh t => exact reachable_of_task (mayRequest_refresh.1 h) rfl

/-! ## Requests that go on -/

/-- What happens to another caller is no matter. -/
theorem mayRequest_of_callers {s' : State} (other : a ≠ .caller n)
    (callers : ∀ m, n ≠ m → s'.callers.get? m = s.callers.get? m) (tasks : s'.tasks = s.tasks) :
    s'.mayRequest a = s.mayRequest a := by
  cases a with
  | caller m =>
    have hne : n ≠ m := fun h => other (h ▸ rfl)
    rw [mayRequest, mayRequest, callers m hne]
  | refresh t => rw [mayRequest, mayRequest, tasks]

/-- What happens to another task is no matter. -/
theorem mayRequest_of_tasks {s' : State} (other : a ≠ .refresh t)
    (callers : s'.callers = s.callers)
    (tasks : ∀ t', t ≠ t' → s'.tasks.get? t' = s.tasks.get? t') :
    s'.mayRequest a = s.mayRequest a := by
  cases a with
  | caller m => rw [mayRequest, mayRequest, callers]
  | refresh t' =>
    have hne : t ≠ t' := fun h => other (h ▸ rfl)
    rw [mayRequest, mayRequest, tasks t' hne]

theorem mayRequest_lock (a' : Agent) : (s.lock a').mayRequest a = s.mayRequest a := by
  rw [lock_eq]
  rfl

theorem mayRequest_leave (other : a ≠ .caller n) : (s.leave n).mayRequest a = s.mayRequest a :=
  mayRequest_of_callers other (fun _ hne => Table.get?_erase_of_ne hne) rfl

theorem mayRequest_retire (other : a ≠ .refresh t) :
    (s.retire t).mayRequest a = s.mayRequest a :=
  mayRequest_of_tasks other rfl fun _ hne => Table.get?_erase_of_ne hne

theorem mayRequest_insert_caller (other : a ≠ .caller n) (stage : CallerStage) :
    ({ s with callers := s.callers.insert n stage } : State).mayRequest a = s.mayRequest a :=
  mayRequest_of_callers other (fun _ hne => Table.get?_insert_of_ne hne) rfl

theorem mayRequest_insert_task (other : a ≠ .refresh t) (task : Task) :
    ({ s with tasks := s.tasks.insert t task } : State).mayRequest a = s.mayRequest a :=
  mayRequest_of_tasks other rfl fun _ hne => Table.get?_insert_of_ne hne

theorem mayRequest_arm (timed : Timed s.timer s.tasks s.nextTimer) (h : s.mayRequest a = true)
    (now firesAt : Nat) : (s.arm now firesAt).1.mayRequest a = true := by
  cases a with
  | caller m =>
    rw [arm_fst]
    exact h
  | refresh t => exact mayRequest_refresh.2 (timed.get?_arm (mayRequest_refresh.1 h) _ _)

/-- Who has a request to make is no caller that does not fetch. -/
theorem other_caller (h : s.mayRequest a = true) (idle : s.callers.get? n ≠ some .fetching) :
    a ≠ .caller n := by
  rintro rfl
  exact idle (mayRequest_caller.1 h)

theorem other_refresh (h : s.mayRequest a = true) (idle : s.tasks.get? t ≠ some .requesting) :
    a ≠ .refresh t := by
  rintro rfl
  exact idle (mayRequest_refresh.1 h)

theorem Acts.other {wish : Wish} (acts : s.Acts n wish) (h : s.mayRequest a = true) :
    a ≠ .caller n :=
  other_caller h (by simp [acts.queued])

theorem Returns.other {round : Nat} {o : Outcome (Resource Token)} (returns : s.Returns t round o)
    (h : s.mayRequest a = true) : a ≠ .refresh t :=
  other_refresh h (by simp [returns.returned])

end State

open State

/-- Callers, tasks and requests fit together. -/
structure Orderly (s : State) : Prop where
  atWork : ∀ a stage, s.keyed.callers.get? a = some stage → s.mayRequest a = true
  timed : s.isReachable = true → Timed s.timer s.tasks s.nextTimer

namespace Orderly

variable {cfg : Config} {env env' : Surroundings} {s : State} {now : Nat}
  {k : Cache.State Agent ParameterSet Token} {ke : Cache.Event Agent ParameterSet Token}
  {known : List (Cache.Note Agent ParameterSet Token)} {a : Agent}

theorem start : Orderly .start := ⟨nofun, fun _ => .empty⟩

theorem looks (h : Orderly s) (permits : s.Permits cfg ke) {key : ParameterSet} {way : Cache.Path}
    (looks : Cache.Looks s.keyed a key (arriving cfg now ke) way) : s.mayRequest a = true := by
  cases ke with
  | look a' key' =>
    cases looks
    exact permits.1
  | decide a' =>
    cases looks with
    | second undecided => exact h.atWork _ _ undecided
  | finish _ _ | settle _ | drop _ => cases looks

/-- Who is at work after a step of the keyed cache had a request to make before. -/
theorem requested (h : Orderly s) (permits : s.Permits cfg ke)
    (t : Cache.Transition ParameterSet.text env s.keyed (arriving cfg now ke) env' k known)
    {stage : Cache.Stage ParameterSet} (ha : k.callers.get? a = some stage) :
    s.mayRequest a = true := by
  rcases t.at_work ha with before | ⟨_, looks, -⟩
  · exact h.atWork a stage before
  · exact h.looks permits looks

/-- Who is answered by the keyed cache had a request to make. -/
theorem answered (h : Orderly s) (permits : s.Permits cfg ke)
    (t : Cache.Transition ParameterSet.text env s.keyed (arriving cfg now ke) env' k known)
    {key : ParameterSet} {round : Nat} {o : Outcome (Resource Token)}
    (ha : .answered a key round o ∈ known) : s.mayRequest a = true := by
  rcases t.answered ha with ⟨_, _, -, looks, -⟩ | ⟨-, awaits, -⟩
  · exact h.looks permits looks
  · exact h.atWork a _ awaits

/-- The keyed cache takes steps only for those who have a request to make. -/
theorem somebody (h : Orderly s) (permits : s.Permits cfg ke)
    (t : Cache.Transition ParameterSet.text env s.keyed (arriving cfg now ke) env' k known) :
    ∃ a, s.mayRequest a = true := by
  rcases t.somebody with ⟨a, key, hlook⟩ | ⟨a, stage, working⟩
  · cases ke with
    | look a' key' => exact ⟨a', permits.1⟩
    | decide _ | finish _ _ | settle _ | drop _ => cases hlook
  · exact ⟨a, h.atWork a stage working⟩

theorem reachable (h : Orderly s) (permits : s.Permits cfg ke)
    (t : Cache.Transition ParameterSet.text env s.keyed (arriving cfg now ke) env' k known) :
    s.isReachable = true := by
  obtain ⟨a, requests⟩ := h.somebody permits t
  exact reachable_of_mayRequest requests

end Orderly

section Step

variable {cfg : Config} {env env' : Surroundings} {s s' : State} {e : Event} {notes : List Note}

/-- Nobody comes to reach a cache that nobody could reach. -/
theorem Transition.reachable_before (t : Transition cfg env s e env' s' notes) (h : Orderly s)
    (hr : s'.isReachable = true) : s.isReachable = true := by
  cases t with
  | enter _ reachable | addHandle reachable | dropHandle reachable =>
    exact isReachable_iff.2 (.inl reachable)
  | serve acts _ | fetch acts _ | keep acts _ | resume acts _ _ | idle acts _ _ | stop acts =>
    exact reachable_of_caller acts.queued
  | discard returns _ | refresh returns _ | giveUp returns _ _ | retry returns _ _ _ _ =>
    exact reachable_of_task returns.returned rfl
  | keyed permits t _ | fetched permits t _ | failed permits t _ | returned permits t _ =>
    exact h.reachable permits t
  | fire _ _ reachable => exact reachable
  | cancel there => exact reachable_of_caller there
  | quit _ _ =>
    rcases isReachable_iff.1 hr with handles | callers | ⟨t, task, ht, awake⟩
    · exact isReachable_iff.2 (.inl handles)
    · exact isReachable_iff.2 (.inr (.inl callers))
    · exact reachable_of_task (Table.get?_of_get?_erase ht).2 awake

theorem Transition.requested (t : Transition cfg env s e env' s' notes) (h : Orderly s) :
    ∀ {a stage}, s'.keyed.callers.get? a = some stage → s.mayRequest a = true := by
  refine t.keyed_keeps
    (P := fun k => ∀ {a stage}, k.callers.get? a = some stage → s.mayRequest a = true) ?_ ?_ ?_
  · exact fun ha => h.atWork _ _ ha
  · exact fun _ _ _ ha => h.atWork _ _ (Cache.State.get?_of_get?_leave ha).2
  · exact fun _ _ permits t _ _ ha => h.requested permits t ha

theorem Transition.atWork (t : Transition cfg env s e env' s' notes) (h : Orderly s) (a : Agent)
    (stage : Cache.Stage ParameterSet) (ha : s'.keyed.callers.get? a = some stage) :
    s'.mayRequest a = true := by
  -- It has a request to make still, unless the step is its own: then it is not at work any more.
  have before := t.requested h ha
  cases t with
  | keyed _ _ _ | addHandle _ | dropHandle _ => exact before
  | @enter n _ new _ =>
    have other : a ≠ .caller n := other_caller before (by simp [new])
    rw [mayRequest_lock, mayRequest_insert_caller other]
    exact before
  | serve acts _ | keep acts _ | idle acts _ _ | stop acts =>
    rw [mayRequest_leave (acts.other before)]
    exact before
  | fetch acts _ =>
    rw [mayRequest_insert_caller (acts.other before)]
    exact before
  | resume acts _ _ =>
    rw [mayRequest_leave (acts.other before)]
    refine mayRequest_arm ?_ ?_ _ _
    · exact h.timed (reachable_of_caller acts.queued)
    · exact before
  | discard returns _ | giveUp returns _ _ =>
    rw [mayRequest_retire (returns.other before)]
    exact before
  | refresh returns _ | retry returns _ _ _ _ =>
    rw [mayRequest_retire (returns.other before)]
    refine mayRequest_arm ?_ ?_ _ _
    · exact (h.timed (reachable_of_task returns.returned rfl)).disarm
    · exact before
  | @fetched _ _ k _ n _ _ _ permits t hanswer =>
    have working : k.callers.get? a = some stage := by
      simpa only [leave, unlock, install_fst, arm_fst] using ha
    rw [mayRequest_leave (t.other_of_answered hanswer working)]
    refine mayRequest_arm ?_ ?_ _ _
    · exact h.timed (h.reachable permits t)
    · exact before
  | failed _ t hanswer =>
    rw [mayRequest_leave (t.other_of_answered hanswer ha)]
    exact before
  | returned _ t hanswer =>
    rw [lock_eq] at ha
    rw [mayRequest_lock]
    exact (mayRequest_insert_task (t.other_of_answered hanswer ha) _).trans before
  | @fire t _ sleeping _ _ =>
    have other : a ≠ .refresh t := other_refresh before (by simp [sleeping])
    rw [mayRequest_insert_task other]
    exact before
  | @quit t _ sleeping _ =>
    have other : a ≠ .refresh t := other_refresh before (by simp [sleeping])
    exact (mayRequest_retire other).trans before
  | cancel _ =>
    rw [cancel_eq] at ha ⊢
    have other := (Cache.State.get?_of_get?_leave ha).1.symm
    exact (mayRequest_leave other).trans before

theorem Transition.timed (t : Transition cfg env s e env' s' notes) (h : Orderly s)
    (hr : s'.isReachable = true) : Timed s'.timer s'.tasks s'.nextTimer := by
  have reachable := t.reachable_before h hr
  have timed := h.timed reachable
  cases t with
  | serve _ _ | fetch _ _ | keep _ _ | idle _ _ _ | keyed _ _ _ | failed _ _ _ | addHandle _
  | dropHandle _ => exact timed
  | enter _ _ =>
    rw [lock_eq]
    exact timed
  | cancel _ =>
    rw [cancel_eq]
    exact timed
  | stop _ => exact timed.disarm
  | resume _ _ _ | fetched _ _ _ =>
    refine Timed.arm ?_ _ _
    exact timed
  | discard _ other => exact timed.erase other
  | giveUp _ _ _ => exact timed.disarm.erase nofun
  | refresh returns _ | retry returns _ _ _ _ =>
    refine Timed.arm_erase ?_ ?_ ?_ _ _
    · exact timed.disarm
    · rfl
    · exact timed.numbered _ _ returns.returned
  | returned permits t ha =>
    rw [lock_eq]
    exact timed.insert (mayRequest_refresh.1 (h.answered permits t ha)) rfl
  | fire sleeping _ _ => exact timed.insert sleeping rfl
  | quit _ unwanted =>
    refine timed.erase (unwanted.resolve_left ?_)
    rw [reachable]
    nofun

theorem Transition.orderly (t : Transition cfg env s e env' s' notes) (h : Orderly s) :
    Orderly s' :=
  ⟨t.atWork h, t.timed h⟩

end Step

theorem run_orderly {cfg : Config} {world : Surroundings → State → Surroundings → Prop}
    {moves : List (Move State Event Note)} {env : Surroundings} {s : State}
    (run : (system cfg world).Run moves env s) : Orderly s := by
  obtain ⟨env₀, path⟩ := run
  exact path.keeps (P := fun _ s => Orderly s) (fun h _ => h)
    (fun h hs => (step_transition hs).orderly h) .start

end TokenCache
end SingleFlight
