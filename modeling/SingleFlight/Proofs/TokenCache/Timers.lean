import SingleFlight.Proofs.TokenCache.Tasks

/-!
The timer of the cache is neither lost nor revived.

While timers are on and the held token lives there is a timer, unless the last refresh failed in a
way that waiting does not mend (`Covered`).  Refreshes clear the timer before they arm another, and
`start` arms none where there is one, so it takes every step to see this.

Once the held token has expired only a new token has a timer armed.  Until then timers run down
(`RunsDown`): the timer of the cache stays or goes, and no task falls asleep.  So the timer fires at
most once more.
-/

namespace SingleFlight
namespace TokenCache

open State

/-- The clock does not go back. -/
def Clock (env : Surroundings) (_ : State) (env' : Surroundings) : Prop := env.now ≤ env'.now

/-! ## A timer for a living token -/

/-- Where timers are on and the held token lives, there is a timer, or a refresh failed because of
the configuration. -/
def Covered (now : Nat) (s : State) : Prop :=
  s.enabled = true → ∀ h, s.held = some h → now < h.token.expiresAt →
    (∃ timer, s.timer = some timer) ∨ ∃ e, s.lastError = some e ∧ e.isConfiguration = true

section Step

variable {cfg : Config} {env env' : Surroundings} {s s' : State} {e : Event} {notes : List Note}

theorem covered_arm (s : State) (now firesAt at' : Nat) : Covered at' (s.arm now firesAt).1 := by
  rw [arm_fst]
  intro enabled h _ _
  have on : s.enabled = true := enabled
  refine .inl ⟨⟨s.nextTimer, firesAt⟩, ?_⟩
  simp only [on, if_true]

/-- A token that does not live needs no timer. -/
theorem covered_of_unusable {now : Nat} (h : s.usable? now = none) : Covered now s := by
  intro _ held hheld alive
  have expired := usable?_eq_none_iff.1 h held hheld
  omega

theorem Covered.later {now later : Nat} (h : Covered now s) (hle : now ≤ later) :
    Covered later s := by
  intro enabled held hheld alive
  exact h enabled held hheld (by omega)

theorem Transition.covered (t : Transition cfg env s e env' s' notes) (h : Covered env.now s) :
    Covered env.now s' := by
  cases t with
  | serve _ _ | fetch _ _ | discard _ _ | keyed _ _ _ | failed _ _ _ | fire _ _ _ | quit _ _
  | addHandle _ | dropHandle _ => exact h
  | enter _ _ | returned _ _ _ =>
    rw [lock_eq]
    exact h
  | cancel _ =>
    rw [cancel_eq]
    exact h
  | keep _ armed =>
    intro _ _ _ _
    exact .inl (Option.isSome_iff_exists.1 armed)
  | idle _ _ unusable => exact covered_of_unusable unusable
  | stop _ => exact nofun
  | resume _ _ _ | refresh _ _ | retry _ _ _ _ _ | fetched _ _ _ => exact covered_arm _ _ _ _
  | @giveUp _ _ error _ _ reason =>
    rcases reason with configuration | unusable
    · intro _ _ _ _
      exact .inr ⟨error, rfl, configuration⟩
    · exact covered_of_unusable unusable

end Step

/-! ## After the token has expired -/

/-- From the first state to the second the held token stays, the timer stays or goes, and no task
falls asleep. -/
structure RunsDown (s s' : State) : Prop where
  held : s'.held = s.held
  timer : s'.timer = s.timer ∨ s'.timer = none
  asleep : ∀ t firesAt, s'.tasks.get? t = some (.sleeping firesAt) →
    s.tasks.get? t = some (.sleeping firesAt)

theorem RunsDown.refl (s : State) : RunsDown s s := ⟨rfl, .inl rfl, fun _ _ h => h⟩

theorem RunsDown.trans {s₁ s₂ s₃ : State} (h : RunsDown s₁ s₂) (h' : RunsDown s₂ s₃) :
    RunsDown s₁ s₃ where
  held := h'.held.trans h.held
  timer := by
    rcases h'.timer with same | none
    · rw [same]
      exact h.timer
    · exact .inr none
  asleep t firesAt ht := h.asleep t firesAt (h'.asleep t firesAt ht)

/-- The timer of the cache has not fired. -/
def Asleep (s : State) : Prop :=
  ∃ timer firesAt, s.timer = some timer ∧ s.tasks.get? timer.id = some (.sleeping firesAt)

/-- A refresh begins that is not cancelled: the timer that fires is the timer of the cache. -/
def begins (m : Move State Event Note) : Bool :=
  match m.event with
  | .fire t => m.before.timer.map Timer.id = some t
  | _ => false

section Step

variable {cfg : Config} {env env' : Surroundings} {s s' : State} {e : Event} {notes : List Note}

/-- A task that goes on awake does not fall asleep. -/
theorem Task.sleeping_before {tasks : Table Nat Task} {t t' firesAt : Nat} {task : Task}
    (awake : task.isSleeping = false)
    (h : (tasks.insert t task).get? t' = some (.sleeping firesAt)) :
    tasks.get? t' = some (.sleeping firesAt) := by
  rcases Table.get?_of_get?_insert h with ⟨-, rfl⟩ | ⟨-, before⟩
  · cases awake
  · exact before

theorem RunsDown.asleep_before (h : RunsDown s s') (asleep : Asleep s') : Asleep s := by
  obtain ⟨timer, firesAt, htimer, hsleeping⟩ := asleep
  rcases h.timer with same | none
  · exact ⟨timer, firesAt, same.symm.trans htimer, h.asleep _ _ hsleeping⟩
  · rw [none] at htimer
    cases htimer

/-- Without a living token, and until a new one is installed, no step arms a timer. -/
theorem Transition.runs_down (t : Transition cfg env s e env' s' notes)
    (expired : s.usable? env.now = none) (quiet : ∀ h, .installed h ∉ notes) :
    RunsDown s s' ∧ ∀ timer delay, .armed timer delay ∉ notes := by
  cases t with
  | resume _ _ usable | retry _ _ _ usable _ => cases expired.symm.trans usable
  | @refresh _ round r _ _ =>
    have installed := (mem_install_snd { s with timer := none } env.now).2
      (.inl (rfl : Note.installed (heldOf round r) = _))
    exact absurd (List.mem_cons_of_mem _ installed) (quiet (heldOf round r))
  | @fetched _ _ keyed _ _ _ round r _ _ _ =>
    have installed := (mem_install_snd { s with keyed := keyed } env.now).2
      (.inl (rfl : Note.installed (heldOf round r) = _))
    exact absurd (List.mem_append_right _ (List.mem_append_left _ installed))
      (quiet (heldOf round r))
  | serve _ _ | keep _ _ | idle _ _ _ | keyed _ _ _ | failed _ _ _ | addHandle _ | dropHandle _ =>
    exact ⟨⟨rfl, .inl rfl, fun _ _ ht => ht⟩, by simp⟩
  | fetch _ _ =>
    refine ⟨⟨rfl, .inl rfl, fun _ _ ht => ht⟩, fun timer delay => ?_⟩
    split <;> simp
  | enter _ _ =>
    rw [lock_eq]
    exact ⟨⟨rfl, .inl rfl, fun _ _ ht => ht⟩, by simp⟩
  | cancel _ =>
    rw [cancel_eq]
    exact ⟨⟨rfl, .inl rfl, fun _ _ ht => ht⟩, by simp⟩
  | stop _ => exact ⟨⟨rfl, .inr rfl, fun _ _ ht => ht⟩, by simp⟩
  | discard _ _ | quit _ _ =>
    exact ⟨⟨rfl, .inl rfl, fun _ _ ht => (Table.get?_of_get?_erase ht).2⟩, by simp⟩
  | giveUp _ _ _ =>
    exact ⟨⟨rfl, .inr rfl, fun _ _ ht => (Table.get?_of_get?_erase ht).2⟩, by simp⟩
  | returned _ _ _ =>
    rw [lock_eq]
    exact ⟨⟨rfl, .inl rfl, fun _ _ ht => Task.sleeping_before rfl ht⟩, by simp⟩
  | fire _ _ _ => exact ⟨⟨rfl, .inl rfl, fun _ _ ht => Task.sleeping_before rfl ht⟩, by simp⟩

theorem Transition.fires {id : Nat} (t : Transition cfg env s (.fire id) env' s' notes)
    (current : s.timer.map Timer.id = some id) : Asleep s ∧ ¬ Asleep s' := by
  cases t with
  | fire sleeping _ _ =>
    obtain ⟨timer, htimer, rfl⟩ := Option.map_eq_some_iff.1 current
    refine ⟨⟨timer, _, htimer, sleeping⟩, ?_⟩
    rintro ⟨timer', firesAt, htimer', hsleeping⟩
    obtain rfl : timer = timer' := by simpa using htimer.symm.trans htimer'
    rw [Table.get?_insert_self] at hsleeping
    cases hsleeping

end Step

theorem begins_iff {m : Move State Event Note} : begins m = true ↔
    ∃ t, m.event = .fire t ∧ m.before.timer.map Timer.id = some t := by
  unfold begins
  split <;> simp_all

/-! ## Runs -/

section Run

variable {cfg : Config} {moves : List (Move State Event Note)} {env env₀ : Surroundings}
  {s s₀ : State}

theorem path_now_le (path : (system cfg Clock).Path env₀ s₀ moves env s) : env₀.now ≤ env.now := by
  refine path.keeps (P := fun env _ => env₀.now ≤ env.now) (fun h hle => Nat.le_trans h hle)
    (fun h hs => ?_) (Nat.le_refl _)
  rw [(step_transition hs).now]
  exact h

theorem run_covered (run : (system cfg Clock).Run moves env s) : Covered env.now s := by
  obtain ⟨env₀, path⟩ := run
  refine path.keeps (P := fun env s => Covered env.now s) (fun h hle => h.later hle)
    (fun h hs => ?_) (fun _ _ hheld => by cases hheld)
  have t := step_transition hs
  rw [t.now]
  exact t.covered h

/-- On a path without a living token and without a new one no timer is armed, and the timer of the
cache fires at most once, as long as it is asleep. -/
theorem path_runs_down (path : (system cfg Clock).Path env₀ s₀ moves env s)
    (expired : s₀.usable? env₀.now = none) (quiet : ∀ m ∈ moves, ∀ h, .installed h ∉ m.notes) :
    s.usable? env.now = none ∧ RunsDown s₀ s ∧
      (∀ m ∈ moves, ∀ timer delay, .armed timer delay ∉ m.notes) ∧
      (moves.countP begins = 0 ∨ moves.countP begins = 1 ∧ ¬ Asleep s) := by
  induction path with
  | nil =>
    refine ⟨expired, .refl s₀, fun m hm => ?_, .inl rfl⟩
    cases hm
  | @wait _ env env' _ _ hle ih =>
    have later : env.now ≤ env'.now := hle
    obtain ⟨dead, rest⟩ := ih quiet
    refine ⟨usable?_eq_none_iff.2 fun h hh => ?_, rest⟩
    exact Nat.le_trans (usable?_eq_none_iff.1 dead h hh) later
  | @move moves env env' s s' e notes _ hs ih =>
    obtain ⟨dead, down, unarmed, count⟩ := ih fun m hm => quiet m (List.mem_append_left _ hm)
    have t := step_transition hs
    obtain ⟨down', unarmed'⟩ := t.runs_down dead (quiet _ (List.mem_append_right _ (.head _)))
    refine ⟨?_, down.trans down', ?_, ?_⟩
    · rw [usable?, down'.held, t.now]
      exact dead
    · intro m hm
      rcases List.mem_append.1 hm with hm | hm
      · exact unarmed m hm
      · obtain rfl := List.mem_singleton.1 hm
        exact unarmed'
    -- A timer that fires was asleep before and is not after, and none falls asleep.
    · rw [List.countP_append, List.countP_singleton]
      split
      · rename_i hbegins
        obtain ⟨id, rfl, current⟩ := begins_iff.1 hbegins
        obtain ⟨asleep, awake⟩ := t.fires current
        rcases count with none | ⟨-, fired⟩
        · exact .inr ⟨by omega, awake⟩
        · exact absurd asleep fired
      · rcases count with none | ⟨one, fired⟩
        · exact .inl (by omega)
        · exact .inr ⟨by omega, fun asleep => fired (down'.asleep_before asleep)⟩

/-- The timer of the cache is neither lost nor revived.

Wherever a run leads, if timers are on and the held token lives there is a timer, which sleeps or
has its refresh in flight as long as anybody can reach the cache; or a refresh failed because of the
configuration.  And once the held token has expired no step arms a timer until a new token is
installed, so the timer that is left, if one is, begins at most one more refresh. -/
theorem timer_until_expiry (run : (system cfg Clock).Run moves env s) :
    (s.enabled = true → ∀ h, s.held = some h → env.now < h.token.expiresAt →
      (∃ timer, s.timer = some timer ∧
        (s.isReachable = true → Outstanding s.tasks timer)) ∨
      ∃ e, s.lastError = some e ∧ e.isConfiguration = true) ∧
    ∀ h, s.held = some h → h.token.expiresAt ≤ env.now →
      ∀ later env' s', (system cfg Clock).Path env s later env' s' →
        (∀ m ∈ later, ∀ h', .installed h' ∉ m.notes) →
        (∀ m ∈ later, ∀ timer delay, .armed timer delay ∉ m.notes) ∧
        (s'.timer = s.timer ∨ s'.timer = none) ∧ later.countP begins ≤ 1 := by
  constructor
  · intro enabled h hheld alive
    rcases run_covered run enabled h hheld alive with ⟨timer, htimer⟩ | configuration
    · exact .inl ⟨timer, htimer, fun reachable =>
        ((run_orderly run).timed reachable).outstanding timer htimer⟩
    · exact .inr configuration
  · intro h hheld dead later env' s' path quiet
    have expired : s.usable? env.now = none := by
      refine usable?_eq_none_iff.2 fun h' hh' => ?_
      obtain rfl : h = h' := by simpa using hheld.symm.trans hh'
      exact dead
    obtain ⟨-, down, unarmed, count⟩ := path_runs_down path expired quiet
    exact ⟨unarmed, down.timer, by omega⟩

end Run

/-- A token is fetched and its refresh armed.  The timer fires when the token has expired and the
refresh fails; neither this nor a caller that has timers turned on arms another timer. -/
theorem timer_until_expiry_failing :
    ∃ cfg moves env s later env' s', (system cfg Clock).Run moves env s ∧
      (∃ timer, s.timer = some timer ∧ Outstanding s.tasks timer) ∧
      (system cfg Clock).Path (env.pass 100) s later env' s' ∧
      later.countP begins = 1 ∧ s'.enabled = true ∧
      ∀ m ∈ later, ∀ timer delay, .armed timer delay ∉ m.notes := by
  let cfg : Config :=
    { name := "token", parameters := .empty, lead := 10, backoff := { base := 1, limit := 8 } }
  have fetched : (system cfg Clock).Path .start .start _ _ _ :=
    .of_replay [.enter 0 .get, .act (.caller 0), .keyed (.look (.caller 0) .empty),
      .keyed (.decide (.caller 0)),
      .keyed (.finish 0 (.returned (.ok (Token.toResource ⟨"first", 100⟩ 0)))),
      .keyed (.settle (.caller 0))] rfl
  obtain ⟨timer, htimer, outstanding⟩ :=
    ((timer_until_expiry ⟨_, fetched⟩).1 rfl _ rfl (by decide)).resolve_right nofun
  have expired := fetched.wait (show (system cfg Clock).world _ _ (Surroundings.start.pass 100) from
    Nat.zero_le 100)
  let failing : List Event :=
    [.fire 0, .keyed (.look (.refresh 0) .empty), .keyed (.decide (.refresh 0)),
      .keyed (.finish 1 (.returned (.error (.plain "down")))), .keyed (.settle (.refresh 0)),
      .act (.refresh 0), .enter 1 .start, .act (.caller 1)]
  refine ⟨cfg, _, .start, _, _, _, _, ⟨_, fetched⟩, ⟨timer, htimer, outstanding rfl⟩,
    .of_replay failing rfl, rfl, rfl, ?_⟩
  have after :=
    (timer_until_expiry ⟨_, expired⟩).2 _ rfl (by decide) _ _ _ (.of_replay failing rfl)
  refine (after fun m hm h installed => ?_).1
  let isInstalled : Note → Bool := fun
    | .installed _ => true
    | _ => false
  have busy : m.notes.any isInstalled = true := List.any_eq_true.2 ⟨_, installed, rfl⟩
  have quiet := (List.all_eq_true (p := fun m => !(Move.notes m).any isInstalled)).1
    (by decide) m hm
  rw [busy] at quiet
  cases quiet

end TokenCache
end SingleFlight
