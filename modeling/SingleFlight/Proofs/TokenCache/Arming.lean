import SingleFlight.Proofs.TokenCache.Timers

/-!
Timers and the tasks that were armed for them.

A timer is armed with the next number and a task of its own, in one of four ways: a caller has
timers turned on, a token is installed by a reader or by a refresh, or a failed refresh is tried
again.  No other step touches the timer but to drop it (`Transition.arming`), and no other step
makes a task that was not there (`Transition.tasks_from`).  From these two all else follows.

To replace or to drop the timer cancels its task (`Cancelled`).  A task that sleeps takes notice,
and one that has fired goes on, but the number of its timer never comes back.
-/

namespace SingleFlight
namespace TokenCache

open State

/-- The number of the timer that is armed, if a note tells of one. -/
def Note.armed? : Note → Option Nat
  | armed timer _ => some timer.id
  | _ => none

/-- The numbers of the timers that are armed on the way, in order. -/
def armed (moves : List (Move State Event Note)) : List Nat :=
  moves.flatMap fun m => m.notes.filterMap Note.armed?

/-- The timer was replaced or dropped on the way. -/
def Cancelled (moves : List (Move State Event Note)) (t : Nat) : Prop :=
  ∃ m ∈ moves, m.before.timer.map Timer.id = some t ∧ m.after.timer.map Timer.id ≠ some t

/-- The timer of the cache, its task and the held token fit together. -/
structure Tethered (now : Nat) (s : State) : Prop where
  numbered : ∀ t task, s.tasks.get? t = some task → t < s.nextTimer
  issued : ∀ timer, s.timer = some timer → timer.id < s.nextTimer
  enabled : ∀ timer, s.timer = some timer → s.enabled = true
  due : ∀ timer, s.timer = some timer → ∃ h, s.held = some h ∧ h.refreshAt ≤ timer.firesAt
  asleep : ∀ timer firesAt, s.timer = some timer →
    s.tasks.get? timer.id = some (.sleeping firesAt) → firesAt = timer.firesAt
  awake : ∀ timer task, s.timer = some timer → s.tasks.get? timer.id = some task →
    task.isSleeping = false → timer.firesAt ≤ now

/-- The task goes on as another: it stays as it is, or it is awake now, and was due if it slept. -/
def Task.GoesOn (now : Nat) (old task : Task) : Prop :=
  task = old ∨ task.isSleeping = false ∧ ∀ firesAt, old = .sleeping firesAt → firesAt ≤ now

/-- Every task was there before, or is the task of a timer that has just been armed. -/
def TasksFrom (now : Nat) (s s' : State) : Prop :=
  ∀ id task, s'.tasks.get? id = some task →
    (∃ old, s.tasks.get? id = some old ∧ old.GoesOn now task) ∨
    id = s.nextTimer ∧ ∃ firesAt, task = .sleeping firesAt ∧ s'.timer = some ⟨id, firesAt⟩

/-- Where a task comes from that is there after a step. -/
inductive TaskStep (cfg : Config) (env env' : Surroundings) (s s' : State) (id : Nat) :
    Task → Prop where
  | stays {task} : s.tasks.get? id = some task → TaskStep cfg env env' s s' id task
  | armed {firesAt} : id = s.nextTimer → s'.timer = some ⟨id, firesAt⟩ →
      TaskStep cfg env env' s s' id (.sleeping firesAt)
  | fired {firesAt} : s.tasks.get? id = some (.sleeping firesAt) → firesAt ≤ env.now →
      TaskStep cfg env env' s s' id .requesting
  | answered {ke known key round o} : s.Permits cfg ke →
      Cache.Transition ParameterSet.text env s.keyed (arriving cfg env.now ke) env' s'.keyed known →
      .answered (.refresh id) key round o ∈ known →
      TaskStep cfg env env' s s' id (.returned round o)

/-- The step arms a timer with the next number, no earlier than the held token asks for. -/
structure Arms (s s' : State) (firesAt : Nat) : Prop where
  enabled : s'.enabled = true
  timer : s'.timer = some ⟨s.nextTimer, firesAt⟩
  nextTimer : s'.nextTimer = s.nextTimer + 1
  due : ∃ h, s'.held = some h ∧ h.refreshAt ≤ firesAt

/-- The step arms no timer.  If the timer stays, so does the held token, and timers stay on. -/
structure Rests (s s' : State) : Prop where
  nextTimer : s'.nextTimer = s.nextTimer
  timer : s'.timer = none ∨
    s'.timer = s.timer ∧
      (s.timer = none ∨ s'.held = s.held ∧ (s.enabled = true → s'.enabled = true))

theorem arm_cases (s : State) (now firesAt : Nat) :
    (s.enabled = true ∧ s.arm now firesAt =
      ({ s with
          timer := some ⟨s.nextTimer, firesAt⟩
          nextTimer := s.nextTimer + 1
          tasks := s.tasks.insert s.nextTimer (.sleeping firesAt) },
        [.armed ⟨s.nextTimer, firesAt⟩ (Instant.remaining firesAt now)])) ∨
    (s.enabled = false ∧ s.arm now firesAt = (s, [])) := by
  unfold arm
  split
  · rename_i on
    exact .inl ⟨on, rfl⟩
  · rename_i off
    exact .inr ⟨by simpa using off, rfl⟩

theorem get?_of_get?_arm (s : State) (now firesAt : Nat) {id : Nat} {task : Task}
    (h : (s.arm now firesAt).1.tasks.get? id = some task) :
    s.tasks.get? id = some task ∨
      id = s.nextTimer ∧ task = .sleeping firesAt ∧
        (s.arm now firesAt).1.timer = some ⟨id, firesAt⟩ := by
  rcases arm_cases s now firesAt with ⟨-, eq⟩ | ⟨-, eq⟩
  · rw [eq] at h ⊢
    rcases Table.get?_of_get?_insert h with ⟨rfl, rfl⟩ | ⟨-, before⟩
    · exact .inr ⟨rfl, rfl, rfl⟩
    · exact .inl before
  · rw [eq] at h
    exact .inl h

theorem install_snd (s : State) (now : Nat) (h : Held) : (s.install now h).2 =
    .installed h :: ({ s with
      held := some h
      published := some h.token
      publications := s.publications + 1
      failures := 0
      lastError := none }.arm now h.refreshAt).2 := rfl

theorem filterMap_keyed {β : Type} {f : Note → Option β} (h : ∀ note, f (.keyed note) = none)
    (notes : List (Cache.Note Agent ParameterSet Token)) :
    (notes.map Note.keyed).filterMap f = [] := by
  rw [List.filterMap_map, List.filterMap_eq_nil_iff]
  intro note _
  exact h note

theorem filterMap_arm {β : Type} {f : Note → Option β}
    (h : ∀ timer delay, f (.armed timer delay) = none) (s : State) (now firesAt : Nat) :
    (s.arm now firesAt).2.filterMap f = [] := by
  rcases arm_cases s now firesAt with ⟨-, eq⟩ | ⟨-, eq⟩
  · rw [eq, List.filterMap_cons, h]
    rfl
  · rw [eq]
    rfl

section Step

variable {cfg : Config} {env env' : Surroundings} {s s' : State} {e : Event} {notes : List Note}

theorem Tethered.unused {now : Nat} (h : Tethered now s) : s.tasks.get? s.nextTimer = none := by
  cases ht : s.tasks.get? s.nextTimer with
  | none => rfl
  | some task => exact absurd (h.numbered _ task ht) (Nat.lt_irrefl _)

theorem Tethered.off {now : Nat} (h : Tethered now s) (disabled : s.enabled = false) :
    s.timer = none := by
  cases htimer : s.timer with
  | none => rfl
  | some timer =>
    have on := h.enabled timer htimer
    rw [disabled] at on
    cases on

theorem Rests.of_eq (nextTimer : s'.nextTimer = s.nextTimer) (timer : s'.timer = s.timer)
    (held : s'.held = s.held) (enabled : s.enabled = true → s'.enabled = true) : Rests s s' :=
  ⟨nextTimer, .inr ⟨timer, .inr ⟨held, enabled⟩⟩⟩

theorem Outstanding.task {tasks : Table Nat Task} {timer : Timer} (h : Outstanding tasks timer) :
    ∃ task, tasks.get? timer.id = some task ∧
      (task = .sleeping timer.firesAt ∨ task.isSleeping = false) := by
  rcases h with asleep | requesting | ⟨round, outcome, returned⟩
  · exact ⟨_, asleep, .inl rfl⟩
  · exact ⟨_, requesting, .inr rfl⟩
  · exact ⟨_, returned, .inr rfl⟩

/-- Where the timer counts and its task is awake, the held token is due. -/
theorem Tethered.refreshAt_le {now : Nat} (h : Tethered now s) {t : Nat} {task : Task}
    (ht : s.tasks.get? t = some task) (awake : task.isSleeping = false)
    (counts : s.timer.map Timer.id = some t) {held : Held} (hheld : s.held = some held) :
    held.refreshAt ≤ now := by
  obtain ⟨timer, htimer, rfl⟩ := Option.map_eq_some_iff.1 counts
  obtain ⟨held', hheld', hdue⟩ := h.due timer htimer
  obtain rfl : held = held' := Option.some.inj (hheld.symm.trans hheld')
  have fired := h.awake timer task htimer ht awake
  omega

theorem Transition.arming (t : Transition cfg env s e env' s' notes) (h : Tethered env.now s) :
    (∃ firesAt, Arms s s' firesAt ∧ notes.filterMap Note.armed? = [s.nextTimer]) ∨
      Rests s s' ∧ notes.filterMap Note.armed? = [] := by
  cases t with
  | serve _ _ | discard _ _ | fire _ _ _ | quit _ _ | addHandle _ | dropHandle _ =>
    exact .inr ⟨.of_eq rfl rfl rfl id, rfl⟩
  | keep _ _ | idle _ _ _ => exact .inr ⟨.of_eq rfl rfl rfl fun _ => rfl, rfl⟩
  | fetch _ _ =>
    refine .inr ⟨.of_eq rfl rfl rfl id, ?_⟩
    split <;> rfl
  | enter _ _ =>
    rw [lock_eq]
    exact .inr ⟨.of_eq rfl rfl rfl id, rfl⟩
  | cancel _ =>
    rw [cancel_eq]
    exact .inr ⟨.of_eq rfl rfl rfl id, rfl⟩
  | stop _ | giveUp _ _ _ => exact .inr ⟨⟨rfl, .inl rfl⟩, rfl⟩
  | keyed _ _ _ =>
    exact .inr ⟨.of_eq rfl rfl rfl id, filterMap_keyed (fun _ => rfl) _⟩
  | failed _ _ _ =>
    refine .inr ⟨.of_eq rfl rfl rfl id, ?_⟩
    rw [List.filterMap_append, filterMap_keyed fun _ => rfl]
    rfl
  | returned _ _ _ =>
    rw [lock_eq]
    exact .inr ⟨.of_eq rfl rfl rfl id, filterMap_keyed (fun _ => rfl) _⟩
  | @resume _ held _ _ usable =>
    obtain ⟨hheld, -⟩ := usable?_eq_some_iff.1 usable
    rcases arm_cases { s with enabled := true } env.now held.refreshAt with ⟨-, eq⟩ | ⟨off', -⟩
    · rw [eq]
      exact .inl ⟨held.refreshAt, ⟨rfl, rfl, rfl, held, hheld, Nat.le_refl _⟩, rfl⟩
    · cases off'
  | @refresh _ round r _ _ =>
    rw [install_fst, install_snd]
    rcases arm_cases _ env.now (heldOf round r).refreshAt with ⟨on, eq⟩ | ⟨off', eq⟩
    · rw [eq]
      exact .inl ⟨_, ⟨on, rfl, rfl, _, rfl, Nat.le_refl _⟩, rfl⟩
    · rw [eq]
      exact .inr ⟨⟨rfl, .inl rfl⟩, rfl⟩
  | @retry _ _ error held delay returns counts _ usable _ =>
    obtain ⟨hheld, -⟩ := usable?_eq_some_iff.1 usable
    rcases arm_cases (s.noteFailure error) env.now (Instant.after env.now delay) with
      ⟨on, eq⟩ | ⟨-, eq⟩
    · have late := Instant.le_after env.now delay
      have due := h.refreshAt_le returns.returned rfl counts hheld
      rw [eq]
      exact .inl ⟨_, ⟨on, rfl, rfl, held, hheld, by omega⟩, rfl⟩
    · rw [eq]
      exact .inr ⟨⟨rfl, .inl rfl⟩, rfl⟩
  | @fetched _ _ keyed known _ _ round r _ _ _ =>
    rw [install_fst, install_snd, List.filterMap_append, filterMap_keyed fun _ => rfl]
    rcases arm_cases _ env.now (heldOf round r).refreshAt with ⟨on, eq⟩ | ⟨off', eq⟩
    · rw [eq]
      exact .inl ⟨_, ⟨on, rfl, rfl, _, rfl, Nat.le_refl _⟩, rfl⟩
    · rw [eq]
      exact .inr ⟨⟨rfl, .inr ⟨rfl, .inl (h.off off')⟩⟩, rfl⟩

theorem Transition.task_step (t : Transition cfg env s e env' s' notes) {id : Nat} {task : Task}
    (ht : s'.tasks.get? id = some task) : TaskStep cfg env env' s s' id task := by
  cases t with
  | serve _ _ | fetch _ _ | keep _ _ | idle _ _ _ | stop _ | keyed _ _ _ | failed _ _ _
  | addHandle _ | dropHandle _ => exact .stays ht
  | enter _ _ =>
    rw [lock_eq] at ht
    exact .stays ht
  | cancel _ =>
    rw [cancel_eq] at ht
    exact .stays ht
  | discard _ _ | giveUp _ _ _ | quit _ _ => exact .stays (Table.get?_of_get?_erase ht).2
  | @resume _ held _ _ _ =>
    rcases get?_of_get?_arm { s with enabled := true } env.now held.refreshAt ht with
      before | ⟨new, rfl, armed⟩
    · exact .stays before
    · exact .armed new armed
  | fetched _ _ _ =>
    rw [install_fst] at ht ⊢
    rcases get?_of_get?_arm _ _ _ ht with before | ⟨new, rfl, armed⟩
    · exact .stays before
    · exact .armed new armed
  | refresh _ _ | retry _ _ _ _ _ =>
    rcases get?_of_get?_arm _ _ _ (Table.get?_of_get?_erase ht).2 with before | ⟨new, rfl, armed⟩
    · exact .stays before
    · exact .armed new armed
  | returned permits t ha =>
    rw [lock_eq] at ht ⊢
    rcases Table.get?_of_get?_insert ht with ⟨rfl, rfl⟩ | ⟨-, before⟩
    · exact .answered permits t ha
    · exact .stays before
  | fire sleeping due _ =>
    rcases Table.get?_of_get?_insert ht with ⟨rfl, rfl⟩ | ⟨-, before⟩
    · exact .fired sleeping due
    · exact .stays before

theorem Transition.tasks_from (t : Transition cfg env s e env' s' notes) (h : Orderly s) :
    TasksFrom env.now s s' := by
  intro id task ht
  cases t.task_step ht with
  | stays before => exact .inl ⟨task, before, .inl rfl⟩
  | armed new armed => exact .inr ⟨new, _, rfl, armed⟩
  | fired sleeping due =>
    refine .inl ⟨_, sleeping, .inr ⟨rfl, fun firesAt same => ?_⟩⟩
    cases same
    exact due
  | answered permits t ha =>
    have requesting := mayRequest_refresh.1 (h.answered permits t ha)
    exact .inl ⟨.requesting, requesting, .inr ⟨rfl, nofun⟩⟩

theorem Arms.asleep {now firesAt : Nat} (arms : Arms s s' firesAt) (h : Tethered now s)
    (tasks : TasksFrom now s s') {task : Task} (ht : s'.tasks.get? s.nextTimer = some task) :
    task = .sleeping firesAt := by
  rcases tasks _ task ht with ⟨old, hold, -⟩ | ⟨-, at', asleep, htimer⟩
  · have hlt := h.numbered _ _ hold
    omega
  · obtain rfl : firesAt = at' := by simpa using arms.timer.symm.trans htimer
    exact asleep

theorem Arms.tethered {now firesAt : Nat} (arms : Arms s s' firesAt) (h : Tethered now s)
    (tasks : TasksFrom now s s') : Tethered now s' := by
  have is_new : ∀ timer, s'.timer = some timer → timer = ⟨s.nextTimer, firesAt⟩ :=
    fun timer htimer => Option.some.inj (htimer.symm.trans arms.timer)
  constructor
  case numbered =>
    intro id task ht
    rw [arms.nextTimer]
    rcases tasks id task ht with ⟨old, hold, -⟩ | ⟨rfl, -⟩
    · have hlt := h.numbered _ _ hold
      omega
    · omega
  case issued =>
    intro timer htimer
    rw [is_new timer htimer, arms.nextTimer]
    exact Nat.lt_succ_self _
  case enabled => exact fun _ _ => arms.enabled
  case due =>
    intro timer htimer
    rw [is_new timer htimer]
    exact arms.due
  case asleep =>
    intro timer at' htimer ht
    rw [is_new timer htimer] at ht ⊢
    simpa using arms.asleep h tasks ht
  case awake =>
    intro timer task htimer ht awake
    rw [is_new timer htimer] at ht
    rw [arms.asleep h tasks ht] at awake
    cases awake

theorem Rests.timer_before (rests : Rests s s') {timer : Timer} (htimer : s'.timer = some timer) :
    s.timer = some timer ∧ s'.held = s.held ∧ (s.enabled = true → s'.enabled = true) := by
  rcases rests.timer with none | ⟨stays, none | ⟨held, enabled⟩⟩
  · rw [none] at htimer
    cases htimer
  · rw [stays, none] at htimer
    cases htimer
  · exact ⟨stays.symm.trans htimer, held, enabled⟩

/-- What timer there is was there before, and so was its task. -/
theorem Rests.tethered {now : Nat} (rests : Rests s s') (h : Tethered now s)
    (tasks : TasksFrom now s s') : Tethered now s' := by
  have before : ∀ id task, s'.tasks.get? id = some task →
      ∃ old, s.tasks.get? id = some old ∧ old.GoesOn now task := by
    intro id task ht
    refine (tasks id task ht).resolve_right ?_
    -- The number of a new task is not that of a timer which was there.
    rintro ⟨rfl, at', -, htimer⟩
    have hlt := h.issued _ (rests.timer_before htimer).1
    exact Nat.lt_irrefl _ hlt
  constructor
  case numbered =>
    intro id task ht
    obtain ⟨old, hold, -⟩ := before id task ht
    rw [rests.nextTimer]
    exact h.numbered id old hold
  case issued =>
    intro timer htimer
    rw [rests.nextTimer]
    exact h.issued timer (rests.timer_before htimer).1
  case enabled =>
    intro timer htimer
    obtain ⟨htimer', -, enabled⟩ := rests.timer_before htimer
    exact enabled (h.enabled timer htimer')
  case due =>
    intro timer htimer
    obtain ⟨htimer', held, -⟩ := rests.timer_before htimer
    rw [held]
    exact h.due timer htimer'
  case asleep =>
    intro timer at' htimer ht
    obtain ⟨old, hold, rfl | ⟨awake, -⟩⟩ := before _ _ ht
    · exact h.asleep timer at' (rests.timer_before htimer).1 hold
    · cases awake
  case awake =>
    intro timer task htimer ht awake
    have htimer' := (rests.timer_before htimer).1
    obtain ⟨old, hold, rfl | ⟨-, due⟩⟩ := before _ _ ht
    · exact h.awake timer task htimer' hold awake
    · cases old with
      | sleeping at' =>
        have hat := h.asleep timer at' htimer' hold
        have hdue := due at' rfl
        omega
      | requesting => exact h.awake timer _ htimer' hold rfl
      | returned round outcome => exact h.awake timer _ htimer' hold rfl

theorem Transition.tethered (t : Transition cfg env s e env' s' notes) (h : Tethered env.now s)
    (orderly : Orderly s) : Tethered env.now s' := by
  have tasks := t.tasks_from orderly
  rcases t.arming h with ⟨firesAt, arms, -⟩ | ⟨rests, -⟩
  · exact arms.tethered h tasks
  · exact rests.tethered h tasks

/-- A timer that was replaced or dropped does not come back. -/
theorem Transition.superseded (t : Transition cfg env s e env' s' notes) (h : Tethered env.now s)
    {id : Nat} (old : id < s.nextTimer) (gone : s.timer.map Timer.id ≠ some id) :
    id < s'.nextTimer ∧ s'.timer.map Timer.id ≠ some id := by
  rcases t.arming h with ⟨firesAt, arms, -⟩ | ⟨rests, -⟩
  · rw [arms.nextTimer, arms.timer]
    refine ⟨by omega, fun same => ?_⟩
    have new : s.nextTimer = id := Option.some.inj same
    omega
  · rw [rests.nextTimer]
    refine ⟨old, fun same => ?_⟩
    obtain ⟨timer, htimer, rfl⟩ := Option.map_eq_some_iff.1 same
    exact gone (congrArg (Option.map Timer.id) (rests.timer_before htimer).1)

end Step

/-! ## Runs -/

section Run

variable {cfg : Config} {moves : List (Move State Event Note)} {env env₀ : Surroundings}
  {s s₀ : State}

theorem Tethered.later {now later : Nat} (h : Tethered now s) (hle : now ≤ later) :
    Tethered later s where
  numbered := h.numbered
  issued := h.issued
  enabled := h.enabled
  due := h.due
  asleep := h.asleep
  awake timer task htimer ht awake := Nat.le_trans (h.awake timer task htimer ht awake) hle

theorem path_tethered (path : (system cfg Clock).Path env₀ s₀ moves env s)
    (h : Tethered env₀.now s₀) (orderly : Orderly s₀) : Tethered env.now s ∧ Orderly s := by
  refine path.keeps (P := fun env s => Tethered env.now s ∧ Orderly s)
    (fun h hle => ⟨h.1.later hle, h.2⟩) (fun h hs => ?_) ⟨h, orderly⟩
  have t := step_transition hs
  rw [t.now]
  exact ⟨t.tethered h.1 h.2, t.orderly h.2⟩

theorem run_tethered (run : (system cfg Clock).Run moves env s) : Tethered env.now s := by
  obtain ⟨env₀, path⟩ := run
  exact (path_tethered path ⟨nofun, nofun, nofun, nofun, nofun, nofun⟩ .start).1

theorem path_superseded (path : (system cfg Clock).Path env₀ s₀ moves env s)
    (h : Tethered env₀.now s₀) (orderly : Orderly s₀) {id : Nat} (old : id < s₀.nextTimer)
    (gone : s₀.timer.map Timer.id ≠ some id) : s.timer.map Timer.id ≠ some id := by
  have kept := path.keeps
    (P := fun env s => (Tethered env.now s ∧ Orderly s) ∧
      id < s.nextTimer ∧ s.timer.map Timer.id ≠ some id)
    (fun h hle => ⟨⟨h.1.1.later hle, h.1.2⟩, h.2⟩)
    (fun ⟨⟨tethered, orderly⟩, old, gone⟩ hs => by
      have t := step_transition hs
      rw [t.now]
      exact ⟨⟨t.tethered tethered orderly, t.orderly orderly⟩, t.superseded tethered old gone⟩)
    ⟨⟨h, orderly⟩, old, gone⟩
  exact kept.2.2

/-- Timers are armed in the order of their numbers, and each once. -/
theorem armed_eq_range (run : (system cfg Clock).Run moves env s) :
    armed moves = List.range s.nextTimer := by
  obtain ⟨env₀, path⟩ := run
  induction path with
  | nil => rfl
  | wait _ _ ih => exact ih
  | @move moves _ _ _ s' _ notes path hs ih =>
    have happend : ∀ m, armed (moves ++ [m]) = armed moves ++ m.notes.filterMap Note.armed? := by
      intro m
      simp [armed]
    rw [happend, ih]
    rcases (step_transition hs).arming (run_tethered ⟨_, path⟩) with
      ⟨firesAt, arms, hone⟩ | ⟨rests, hnone⟩
    · rw [arms.nextTimer, List.range_succ]
      simp [hone]
    · rw [rests.nextTimer]
      simp [hnone]

theorem run_cancelled (run : (system cfg Clock).Run moves env s) :
    ∀ id task, s.tasks.get? id = some task →
      s.timer.map Timer.id = some id ∨ Cancelled moves id := by
  obtain ⟨env₀, path⟩ := run
  induction path with
  | nil => nofun
  | wait _ _ ih => exact ih
  | @move moves env env' s s' e notes path hs ih =>
    intro id task ht
    rcases (step_transition hs).tasks_from (run_orderly ⟨_, path⟩) id task ht with
      ⟨old, hold, -⟩ | ⟨-, firesAt, -, htimer⟩
    · rcases ih id old hold with current | ⟨m, hm, dropped⟩
      · by_cases current' : s'.timer.map Timer.id = some id
        · exact .inl current'
        · exact .inr ⟨_, List.mem_append_right _ (.head _), current, current'⟩
      · exact .inr ⟨m, List.mem_append_left _ hm, dropped⟩
    · rw [htimer]
      exact .inl rfl

/-- The timer of the cache and the tasks that sleep, wherever a run leads.

A task that sleeps and was not cancelled is that of the timer, with its number and its instant, and
so there is one at most.  If there is a timer, timers are on, a token is held, the timer fires no
earlier than the token asks for, and as long as anybody can reach the cache one task has the number
of the timer, which sleeps until its instant or has its refresh in flight.  Where timers are off
there is no timer.  No number is given to two timers, nor is one that a task still has.  And the
task of every other timer was cancelled, and its timer never becomes the timer of the cache again.
-/
theorem timer_has_one_task (run : (system cfg Clock).Run moves env s) :
    (∀ t firesAt, s.tasks.get? t = some (.sleeping firesAt) → ¬ Cancelled moves t →
      s.timer = some ⟨t, firesAt⟩ ∧
        ∀ t' firesAt', s.tasks.get? t' = some (.sleeping firesAt') → ¬ Cancelled moves t' →
          t' = t) ∧
    (∀ timer, s.timer = some timer →
      s.enabled = true ∧ (∃ h, s.held = some h ∧ h.refreshAt ≤ timer.firesAt) ∧
      (s.isReachable = true → ∃ task, (timer.id, task) ∈ s.tasks.rows ∧
        (task = .sleeping timer.firesAt ∨ task.isSleeping = false) ∧
        ∀ row ∈ s.tasks.rows, row.1 = timer.id → row = (timer.id, task))) ∧
    (s.enabled = false → s.timer = none) ∧
    ((armed moves).Nodup ∧ ∀ m ∈ moves, ∀ timer delay, .armed timer delay ∈ m.notes →
      m.before.tasks.get? timer.id = none) ∧
    ∀ t task, s.tasks.get? t = some task → s.timer.map Timer.id ≠ some t →
      Cancelled moves t ∧ ∀ later env' s', (system cfg Clock).Path env s later env' s' →
        s'.timer.map Timer.id ≠ some t := by
  have tethered := run_tethered run
  have orderly := run_orderly run
  have of_sleeping : ∀ t firesAt, s.tasks.get? t = some (.sleeping firesAt) → ¬ Cancelled moves t →
      s.timer = some ⟨t, firesAt⟩ := by
    intro t firesAt asleep kept
    have current := (run_cancelled run t _ asleep).resolve_right kept
    obtain ⟨timer, htimer, rfl⟩ := Option.map_eq_some_iff.1 current
    rw [htimer, tethered.asleep timer firesAt htimer asleep]
  refine ⟨?_, ?_, ?_, ⟨?_, ?_⟩, ?_⟩
  · intro t firesAt asleep kept
    have htimer := of_sleeping t firesAt asleep kept
    refine ⟨htimer, fun t' firesAt' asleep' kept' => ?_⟩
    have same := htimer.symm.trans (of_sleeping t' firesAt' asleep' kept')
    simpa using (congrArg (Option.map Timer.id) same).symm
  · intro timer htimer
    refine ⟨tethered.enabled timer htimer, tethered.due timer htimer, fun reachable => ?_⟩
    obtain ⟨task, ht, hstage⟩ := ((orderly.timed reachable).outstanding timer htimer).task
    refine ⟨task, Table.get?_eq_some_iff.1 ht, hstage, ?_⟩
    rintro ⟨t, task'⟩ hrow rfl
    have same := ht.symm.trans (Table.get?_eq_some_iff.2 hrow)
    rw [Option.some.inj same]
  · exact tethered.off
  · rw [armed_eq_range run]
    exact List.nodup_range
  · intro m hm timer delay harmed
    obtain ⟨_, _, _, -, first, hs, -⟩ := run.cut_of_mem hm
    have before := run_tethered first
    have number : timer.id ∈ m.notes.filterMap Note.armed? :=
      List.mem_filterMap.2 ⟨_, harmed, rfl⟩
    rcases (step_transition hs).arming before with ⟨_, -, hone⟩ | ⟨-, hnone⟩
    · rw [hone, List.mem_singleton] at number
      rw [number]
      exact before.unused
    · rw [hnone] at number
      cases number
  · intro t task ht other
    refine ⟨(run_cancelled run t task ht).resolve_left other, fun later env' s' path => ?_⟩
    exact path_superseded path tethered orderly (tethered.numbered t task ht) other

end Run

/-- A timer fires, and while its refresh is in flight timers are turned off and on again.  The new
timer has a task that sleeps; the refresh goes on and will not count. -/
theorem timer_has_one_task_restarted :
    ∃ cfg moves env s, (system cfg Clock).Run moves env s ∧ s.timer = some ⟨1, 90⟩ ∧
      (s.tasks.get? 0).map Task.isSleeping = some false ∧
      (∃ task, (1, task) ∈ s.tasks.rows ∧ ∀ row ∈ s.tasks.rows, row.1 = 1 → row = (1, task)) ∧
      Cancelled moves 0 ∧ ∀ later env' s', (system cfg Clock).Path env s later env' s' →
        s'.timer.map Timer.id ≠ some 0 := by
  let cfg : Config :=
    { name := "token", parameters := .empty, lead := 10, backoff := { base := 1, limit := 8 } }
  have fetched : (system cfg Clock).Path .start .start _ _ _ :=
    .of_replay [.enter 0 .get, .act (.caller 0), .keyed (.look (.caller 0) .empty),
      .keyed (.decide (.caller 0)),
      .keyed (.finish 0 (.returned (.ok (Token.toResource ⟨"first", 100⟩ 0)))),
      .keyed (.settle (.caller 0))] rfl
  have due := fetched.wait (show (system cfg Clock).world _ _ (Surroundings.start.pass 90) from
    Nat.zero_le 90)
  have restarted := due.trans (.of_replay [.fire 0, .enter 1 .stop, .act (.caller 1),
    .enter 2 .start, .act (.caller 2)] rfl)
  have run : (system cfg Clock).Run _ _ _ := ⟨_, restarted⟩
  obtain ⟨-, timer, -, -, others⟩ := timer_has_one_task run
  obtain ⟨-, -, task⟩ := timer ⟨1, 90⟩ rfl
  obtain ⟨task, hrow, -, alone⟩ := task rfl
  exact ⟨cfg, _, _, _, run, rfl, rfl, ⟨task, hrow, alone⟩, others 0 .requesting rfl (by decide)⟩

end TokenCache
end SingleFlight
