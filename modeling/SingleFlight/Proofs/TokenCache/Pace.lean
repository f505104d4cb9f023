import SingleFlight.Proofs.Backoff
import SingleFlight.Proofs.TokenCache.Outage

/-!
How fast refreshes follow each other.

A timer is armed because a caller has timers turned on, because a token is installed, or because a
refresh has failed (`ArmedFor`), and only in the first case may it be due at once.  A token that had
some time to live when its fetch ended is installed before it is due, provided that whoever waited
for it takes it at that moment (`Timely`).  A failed refresh waits at least for the base delay, and
settings that are valid have one.

A task sleeps until the instant of its timer (`SleepsUntil`).  So, as long as no caller has timers
turned on, each refresh begins later than the one before.
-/

namespace SingleFlight

namespace TokenCache

open State

/-- The token cache that is built from settings. -/
def Config.ofSettings (name : String) (parameters : ParameterSet) (settings : TokenCacheSettings) :
    Config where
  name := name
  parameters := parameters
  lead := Span.ofSeconds settings.leadSeconds
  backoff := settings.backoff

/-- A token that is fetched in the move has at least two nanoseconds to live. -/
def Lively (cfg : Config) (m : Move State Event Note) : Prop :=
  ∀ token, received? cfg m = some (.ok token) → m.env.now + 2 ≤ token.expiresAt

instance (cfg : Config) (m : Move State Event Note) : Decidable (Lively cfg m) :=
  decidable_of_iff (∀ token ∈ (received? cfg m).bind Except.toOption,
    m.env.now + 2 ≤ token.expiresAt) <| by
    unfold Lively
    rcases received? cfg m with _ | (_ | _) <;> simp [Except.toOption]

/-- A caller has timers turned on in the move. -/
def starts (m : Move State Event Note) : Bool :=
  match m.event with
  | .act (.caller n) => m.before.callers.get? n = some (.queued .start)
  | _ => false

/-- Everybody has taken the outcome of the round that they waited for.  If a refresh has a token to
install, it is kept from it by somebody who has the lock and waits for a fetch. -/
structure Taken (s : State) : Prop where
  outcomes : ∀ a key round, s.keyed.callers.get? a = some (.awaiting key round) →
    s.keyed.outcome? round = none
  lock : ∀ t round r, s.tasks.get? t = some (.returned round (.ok r)) →
    ∀ a, s.holder = some a → s.isWaiting a = true

/-- The clock does not go back, and those who waited for a round go on before it moves. -/
def Resumes (env : Surroundings) (s : State) (env' : Surroundings) : Prop :=
  env.now ≤ env'.now ∧ (env.now < env'.now → Taken s)

/-- Nobody has anything to take where everybody waits. -/
theorem Punctual.resumes {env env' : Surroundings} {s : State} (punctual : Punctual env s env')
    (orderly : Orderly s) : Resumes env s env' := by
  refine ⟨punctual.1, fun later => ?_⟩
  have rest := punctual.2 later
  refine ⟨fun a key round awaits => ?_, fun _ _ _ _ a holds => rest.fetches a (rest.lock a holds)⟩
  obtain ⟨_, round', awaits', unfinished⟩ :=
    isWaiting_iff.1 (rest.fetches a (orderly.atWork a _ awaits))
  obtain ⟨-, rfl⟩ : _ ∧ round = round' := by simpa using awaits.symm.trans awaits'
  exact unfinished

/-- Whoever waits for a round that has given a token, or has its outcome and has yet to act, has it
before the token is due. -/
def Timely (now : Nat) (s : State) : Prop :=
  ∀ a n r, s.Waits a n → s.keyed.outcome? n = some (.ok r) → now < (heldOf n r).refreshAt

/-- What a timer is armed for.  The notes tell of an installed token, or of a failure, only if this
is what it is armed for. -/
inductive ArmedFor (cfg : Config) (now : Nat) (s : State) (e : Event) (notes : List Note)
    (firesAt : Nat) : Prop where
  | start {n} : e = .act (.caller n) → s.Acts n .start →
      (∀ h, .installed h ∉ notes) →
      (∀ failures error delay, .refreshFailed failures error delay ∉ notes) →
      ArmedFor cfg now s e notes firesAt
  | token {h} : firesAt = h.refreshAt → .installed h ∈ notes →
      (∀ h', .installed h' ∈ notes → h' = h) →
      (∀ failures error delay, .refreshFailed failures error delay ∉ notes) →
      ArmedFor cfg now s e notes firesAt
  | failure {failures} : firesAt = Instant.after now (cfg.backoff.delay failures) →
      (∀ h, .installed h ∉ notes) → ArmedFor cfg now s e notes firesAt

/-- The task of the timer sleeps until the instant, at least, if it sleeps. -/
structure State.SleepsUntil (s : State) (id at' : Nat) : Prop where
  issued : id < s.nextTimer
  sleeps : ∀ firesAt, s.tasks.get? id = some (.sleeping firesAt) → at' ≤ firesAt

/-- The timer of the cache fires later than at the instant, if it has yet to fire. -/
def State.FiresAfter (s : State) (at' : Nat) : Prop :=
  ∀ timer firesAt, s.timer = some timer → s.tasks.get? timer.id = some (.sleeping firesAt) →
    at' < firesAt

section Step

variable {cfg : Config} {env env' : Surroundings} {s s' : State} {e : Event} {notes : List Note}
  {a : Agent} {n id at' : Nat} {r : Resource Token} {timer : Timer} {delay : Nat}

/-! ## Tokens before they are due -/

/-- An answer with a token comes before the token is due. -/
theorem Timely.answered (timely : Timely env.now s) (forward : Forward cfg env.now s)
    {ke : Cache.Event Agent ParameterSet Token} {k : Cache.State Agent ParameterSet Token}
    {known : List (Cache.Note Agent ParameterSet Token)} {key : ParameterSet}
    (t : Cache.Transition ParameterSet.text env s.keyed (arriving cfg env.now ke) env' k known)
    (ha : .answered a key n (.ok r) ∈ known) : env.now < (heldOf n r).refreshAt := by
  rcases t.answered ha with ⟨_, r', same, -, valid⟩ | ⟨-, awaits, ended⟩
  · obtain rfl : r = r' := by simpa using same
    have hvalidity := forward.valid_until (t.answered_ended forward.coherent ha)
    rwa [hvalidity, Validity.check_expiresAt] at valid
  · exact timely a n r (.inl ⟨_, awaits⟩) ended

/-- A token that has just been fetched is not due. -/
theorem Transition.arrives_early (t : Transition cfg env s e env' s' notes)
    (lively : Lively cfg ⟨env, s, e, notes, s'⟩) (ended : s'.keyed.outcome? n = some (.ok r)) :
    s.keyed.outcome? n = some (.ok r) ∨ env.now < (heldOf n r).refreshAt := by
  rcases t.on_keyed with ⟨-, same⟩ | ⟨-, m, -, left⟩ | ⟨ke, known, rfl, -, t⟩
  · rw [same] at ended
    exact .inl ended
  · rw [left] at ended
    exact .inl ended
  · rcases Windowed.arrived t ended with before | ⟨-, hvalidity⟩
    · exact .inl before
    · rcases t.outcome?_cases ended with before | ⟨round, ending, finishes, -, ho⟩
      · exact .inl before
      · right
        rw [refreshAt_heldOf hvalidity]
        refine Token.lt_refreshInstant (lively r.value ?_)
        cases ke with
        | look _ _ | decide _ | settle _ | drop _ => cases finishes
        | finish _ fetched =>
          obtain ⟨rfl, rfl⟩ : _ = n ∧ Token.windowed env.now cfg.lead fetched = ending := by
            simpa [arriving] using finishes
          have returned := Ending.outcome_eq_ok_iff.1 ho.symm
          simp only [received?, received_eq, returned]
          rfl

theorem Transition.timely (t : Transition cfg env s e env' s' notes)
    (forward : Forward cfg env.now s) (timely : Timely env.now s)
    (lively : Lively cfg ⟨env, s, e, notes, s'⟩) : Timely env.now s' := by
  intro a n r waits ended
  rcases t.arrives_early lively ended with before | early
  · rcases t.waits_from forward waits with waits | ⟨_, _, -, t, awaits | ⟨o, ha⟩⟩
    · exact timely a n r waits before
    · exact timely a n r (.inl ⟨_, t.awaited_before forward.coherent awaits ended⟩) before
    · obtain rfl : o = .ok r :=
        Option.some.inj ((t.answered_ended forward.coherent ha).symm.trans before)
      exact timely.answered forward t ha
  · exact early

/-- No token becomes due while somebody has it and has yet to act. -/
theorem Timely.wait (timely : Timely env.now s) (forward : Forward cfg env.now s)
    (kept : Kept cfg env.now s.keyed) (resumes : Resumes env s env') : Timely env'.now s := by
  obtain ⟨hle, taken⟩ := resumes
  rcases Nat.eq_or_lt_of_le hle with same | later
  · rwa [← same]
  have taken := taken later
  rintro a n r (⟨key, awaits⟩ | ⟨t, o, rfl, returned⟩) ended
  · cases (taken.outcomes a key n awaits).symm.trans ended
  · obtain rfl : o = .ok r := Option.some.inj ((forward.returned t n o returned).symm.trans ended)
    have early := timely _ n r (.inr ⟨t, _, rfl, returned⟩) ended
    have stored := kept.stored n r _ ended (forward.valid_until ended) early
    -- Somebody has the lock, but with the token in the table there is no fetch to wait for.
    obtain ⟨b, holds⟩ := forward.inLine.taken (a := .refresh t) ⟨n, _, returned⟩
    obtain ⟨key, round, awaits, unfinished⟩ := isWaiting_iff.1 (taken.lock t n r returned b holds)
    exact absurd unfinished (forward.outcome_of_stored stored awaits)

theorem Brings.early {round : Nat} (b : Brings cfg env s a round r)
    (forward : Forward cfg env.now s) (timely : Timely env.now s) :
    env.now < (heldOf round r).refreshAt := by
  cases b with
  | @returned t _ _ returns _ =>
    exact timely (.refresh t) round r (.inr ⟨t, _, rfl, returns.returned⟩)
      (forward.returned t round _ returns.returned)
  | answered _ t ha => exact timely.answered forward t ha

theorem Transition.installed_early (t : Transition cfg env s e env' s' notes)
    (forward : Forward cfg env.now s) (timely : Timely env.now s) {h : Held}
    (new : .installed h ∈ notes) : env.now < h.refreshAt := by
  have there : h ∈ notes.filterMap Note.installed? := List.mem_filterMap.2 ⟨_, new, rfl⟩
  rcases t.installing with ⟨-, none⟩ | ⟨_, _, _, brings, -, -, one⟩
  · rw [none] at there
    cases there
  · rw [one, List.mem_singleton] at there
    rw [there]
    exact brings.early forward timely

/-! ## Timers that are armed -/

theorem Transition.armed_for (t : Transition cfg env s e env' s' notes)
    (armed : .armed timer delay ∈ notes) :
    s'.timer = some timer ∧ ArmedFor cfg env.now s e notes timer.firesAt := by
  cases t with
  | resume acts _ _ =>
    obtain ⟨rfl, -⟩ : timer = _ ∧ delay = _ := by simpa [mem_arm_snd] using armed
    refine ⟨?_, .start rfl acts ?_ ?_⟩
    · simp only [State.leave, unlock, arm_fst, if_true]
    · simp [mem_arm_snd]
    · simp [mem_arm_snd]
  | refresh _ _ =>
    obtain ⟨enabled, rfl, -⟩ : s.enabled = true ∧ timer = _ ∧ delay = _ := by
      simpa [mem_install_snd] using armed
    refine ⟨?_, .token rfl (.tail _ (.head _)) ?_ ?_⟩
    · simp only [retire, unlock, install_fst, arm_fst, enabled, if_true]
    · simp [mem_install_snd]
    · simp [mem_install_snd]
  | @fetched _ _ keyed known _ _ _ _ _ _ _ =>
    obtain ⟨enabled, rfl, -⟩ : s.enabled = true ∧ timer = _ ∧ delay = _ := by
      simpa [mem_install_snd] using armed
    refine ⟨?_, .token rfl (List.mem_append_right _ (.head _)) ?_ ?_⟩
    · simp only [State.leave, unlock, install_fst, arm_fst, enabled, if_true]
    · simp [mem_install_snd]
    · simp [mem_install_snd]
  | @retry _ _ error _ _ _ _ _ _ hdelay =>
    obtain ⟨enabled, rfl, -⟩ : s.enabled = true ∧ timer = _ ∧ delay = _ := by
      simpa [mem_arm_snd, noteFailure] using armed
    refine ⟨?_, .failure (by rw [hdelay]) ?_⟩
    · simp only [retire, unlock, noteFailure, arm_fst, enabled, if_true]
    · simp [mem_arm_snd]
  | fetch _ _ => split at armed <;> simp at armed
  | enter _ _ | serve _ _ | keep _ _ | idle _ _ _ | stop _ | discard _ _ | giveUp _ _ _
  | keyed _ _ _ | failed _ _ _ | returned _ _ _ | fire _ _ _ | quit _ _ | cancel _ | addHandle _
  | dropHandle _ => simp at armed

theorem ArmedFor.after_failure {now firesAt : Nat} (why : ArmedFor cfg now s e notes firesAt)
    (ordered : cfg.backoff.base ≤ cfg.backoff.limit) {failures : Nat} {error : ResourceError}
    {wait : Option Nat} (failed : .refreshFailed failures error wait ∈ notes) :
    now + min (Span.ofMillis cfg.backoff.base) Span.maxLifetime ≤ firesAt := by
  cases why with
  | start _ _ _ unfailed | token _ _ _ unfailed => exact absurd failed (unfailed _ _ _)
  | failure fires _ =>
    rw [fires]
    exact Nat.add_le_add_left (Backoff.base_le_delay ordered _) _

theorem ArmedFor.of_installed {now firesAt : Nat} (why : ArmedFor cfg now s e notes firesAt)
    {h : Held} (new : .installed h ∈ notes) : firesAt = h.refreshAt := by
  cases why with
  | start _ _ uninstalled _ | failure _ uninstalled => exact absurd new (uninstalled h)
  | token fires _ only _ => rw [fires, only h new]

/-- Unless a caller has timers turned on, no timer is due when it is armed. -/
theorem Transition.armed_later (t : Transition cfg env s e env' s' notes)
    (forward : Forward cfg env.now s) (timely : Timely env.now s) (base : 0 < cfg.backoff.base)
    (ordered : cfg.backoff.base ≤ cfg.backoff.limit) (armed : .armed timer delay ∈ notes)
    (unstarted : starts ⟨env, s, e, notes, s'⟩ = false) : env.now < timer.firesAt := by
  obtain ⟨-, why⟩ := t.armed_for armed
  cases why with
  | start own acts _ _ => simp [starts, own, acts.queued] at unstarted
  | token fires new _ _ =>
    rw [fires]
    exact t.installed_early forward timely new
  | @failure failures fires _ =>
    have wait := Backoff.base_le_delay ordered failures
    have some_time : 0 < min (Span.ofMillis cfg.backoff.base) Span.maxLifetime := by
      unfold Span.ofMillis Span.maxLifetime Span.ofSeconds
      omega
    rw [fires, Instant.after]
    omega

theorem Transition.due_of_fire (t : Transition cfg env s (.fire id) env' s' notes) :
    ∃ firesAt, s.tasks.get? id = some (.sleeping firesAt) ∧ firesAt ≤ env.now := by
  cases t with
  | fire asleep due _ => exact ⟨_, asleep, due⟩

/-- The task of a timer that is armed sleeps until the timer is due. -/
theorem Transition.armed_sleeps (t : Transition cfg env s e env' s' notes)
    (forward : Forward cfg env.now s) (armed : .armed timer delay ∈ notes) :
    s'.SleepsUntil timer.id timer.firesAt := by
  have number : timer.id ∈ notes.filterMap Note.armed? := List.mem_filterMap.2 ⟨_, armed, rfl⟩
  rcases t.arming forward.tethered with ⟨firesAt, arms, -⟩ | ⟨-, none⟩
  · obtain rfl : timer = ⟨s.nextTimer, firesAt⟩ :=
      Option.some.inj ((t.armed_for armed).1.symm.trans arms.timer)
    refine ⟨by rw [arms.nextTimer]; exact Nat.lt_succ_self _, fun at' sleeps => ?_⟩
    obtain rfl : at' = firesAt := by
      simpa using arms.asleep forward.tethered (t.tasks_from forward.orderly) sleeps
    exact Nat.le_refl _
  · rw [none] at number
    cases number

theorem Transition.sleeps_until (t : Transition cfg env s e env' s' notes)
    (forward : Forward cfg env.now s) (h : s.SleepsUntil id at') : s'.SleepsUntil id at' := by
  have issued : s.nextTimer ≤ s'.nextTimer := by
    rcases t.arming forward.tethered with ⟨_, arms, -⟩ | ⟨rests, -⟩
    · rw [arms.nextTimer]
      exact Nat.le_succ _
    · rw [rests.nextTimer]
  refine ⟨Nat.lt_of_lt_of_le h.issued issued, fun firesAt sleeps => ?_⟩
  cases t.task_step sleeps with
  | stays before => exact h.sleeps firesAt before
  | armed new _ => exact absurd new (Nat.ne_of_lt h.issued)

theorem Transition.fires_after (t : Transition cfg env s e env' s' notes)
    (forward : Forward cfg env.now s) (timely : Timely env.now s) (base : 0 < cfg.backoff.base)
    (ordered : cfg.backoff.base ≤ cfg.backoff.limit)
    (unstarted : starts ⟨env, s, e, notes, s'⟩ = false) (hle : at' ≤ env.now)
    (h : s.FiresAfter at') : s'.FiresAfter at' := by
  intro timer firesAt current sleeps
  have tasks := t.tasks_from forward.orderly
  rcases t.arming forward.tethered with ⟨due, arms, one⟩ | ⟨rests, -⟩
  · obtain ⟨note, there, number⟩ :=
      List.mem_filterMap.1 (one ▸ List.mem_singleton_self s.nextTimer)
    obtain ⟨timer', delay, rfl⟩ : ∃ timer' delay, note = .armed timer' delay := by
      cases note <;> first | cases number | exact ⟨_, _, rfl⟩
    have later := t.armed_later forward timely base ordered there unstarted
    obtain rfl : timer' = timer :=
      Option.some.inj ((t.armed_for there).1.symm.trans current)
    obtain rfl : timer' = ⟨s.nextTimer, due⟩ := Option.some.inj (current.symm.trans arms.timer)
    obtain rfl : firesAt = due := by simpa using arms.asleep forward.tethered tasks sleeps
    exact Nat.lt_of_le_of_lt hle later
  · obtain ⟨before, -, -⟩ := rests.timer_before current
    cases t.task_step sleeps with
    | stays asleep => exact h timer firesAt before asleep
    | armed new _ => exact absurd new (Nat.ne_of_lt (forward.tethered.issued timer before))

end Step

/-! ## Runs -/

section Run

variable {cfg : Config} {moves later : List (Move State Event Note)} {env env' : Surroundings}
  {s s' : State} {id at' : Nat}

theorem path_resumes (path : (system cfg Resumes).Path env s later env' s') :
    (system cfg Clock).Path env s later env' s' := path.mono fun resumes => resumes.1

theorem run_resumes (run : (system cfg Resumes).Run moves env s) :
    (system cfg Clock).Run moves env s := by
  obtain ⟨env₀, path⟩ := run
  exact ⟨env₀, path_resumes path⟩

theorem run_timely (run : (system cfg Resumes).Run moves env s)
    (lively : ∀ m ∈ moves, Lively cfg m) : Timely env.now s := by
  obtain ⟨env₀, path⟩ := run
  induction path with
  | nil =>
    rintro a n r - ended
    cases ended
  | wait path resumes ih =>
    have run := run_resumes ⟨_, path⟩
    exact (ih lively).wait (run_forward run) (run_kept run) resumes
  | move path hs ih =>
    have t := step_transition hs
    rw [t.now]
    exact t.timely (run_forward (run_resumes ⟨_, path⟩))
      (ih fun m hm => lively m (List.mem_append_left _ hm))
      (lively _ (List.mem_append_right _ (.head _)))

/-- No timer fires before the instant for which its task sleeps. -/
theorem path_fires_late (path : (system cfg Clock).Path env s later env' s')
    (forward : Forward cfg env.now s) (sleeps : s.SleepsUntil id at') {m : Move State Event Note}
    (hm : m ∈ later) (fires : m.event = .fire id) : at' ≤ m.env.now := by
  obtain ⟨before, rest, rfl⟩ := List.append_of_mem hm
  obtain ⟨_, first, hs, -⟩ := path.cut rfl
  have kept : Forward cfg m.env.now m.before ∧ m.before.SleepsUntil id at' := by
    refine first.keeps (P := fun env s => Forward cfg env.now s ∧ s.SleepsUntil id at')
      (fun h hle => ⟨h.1.later hle, h.2⟩) (fun h hs => ?_) ⟨forward, sleeps⟩
    have t := step_transition hs
    rw [t.now]
    exact ⟨t.forward h.1, t.sleeps_until h.1 h.2⟩
  have t := step_transition hs
  rw [fires] at t
  obtain ⟨firesAt, asleep, due⟩ := t.due_of_fire
  exact Nat.le_trans (kept.2.sleeps firesAt asleep) due

theorem path_fires_after (run : (system cfg Resumes).Run moves env s)
    (path : (system cfg Resumes).Path env s later env' s')
    (lively : ∀ m ∈ moves ++ later, Lively cfg m) (base : 0 < cfg.backoff.base)
    (ordered : cfg.backoff.base ≤ cfg.backoff.limit) (unstarted : ∀ m ∈ later, starts m = false)
    (hle : at' ≤ env.now) (h : s.FiresAfter at') : s'.FiresAfter at' := by
  obtain ⟨env₀, first⟩ := run
  induction path with
  | nil => exact h
  | wait _ _ ih => exact ih lively unstarted
  | @move later env₁ _ s₁ _ e notes path hs ih =>
    have earlier : (system cfg Resumes).Run (moves ++ later) env₁ s₁ := ⟨env₀, first.trans path⟩
    have lively' : ∀ m ∈ moves ++ later, Lively cfg m := fun m hm =>
      lively m (by rw [← List.append_assoc]; exact List.mem_append_left _ hm)
    exact (step_transition hs).fires_after (run_forward (run_resumes earlier))
      (run_timely earlier lively') base ordered (unstarted _ (List.mem_append_right _ (.head _)))
      (Nat.le_trans hle (path_now_le (path_resumes path)))
      (ih lively' fun m hm => unstarted m (List.mem_append_left _ hm))

/-- Between two refreshes that begin time passes, unless a caller has timers turned on. -/
theorem run_begins_later (run : (system cfg Resumes).Run moves env s)
    (lively : ∀ m ∈ moves, Lively cfg m) (base : 0 < cfg.backoff.base)
    (ordered : cfg.backoff.base ≤ cfg.backoff.limit)
    {earlier between rest : List (Move State Event Note)} {m m' : Move State Event Note}
    (hmoves : moves = earlier ++ m :: (between ++ m' :: rest)) (begun : begins m = true)
    (begun' : begins m' = true) (unstarted : ∀ x ∈ between, starts x = false) :
    m.env.now < m'.env.now := by
  obtain ⟨env₀, path⟩ := run
  subst hmoves
  obtain ⟨env₁, first, hs, second⟩ := path.cut rfl
  obtain ⟨_, third, hs', -⟩ := second.cut rfl
  obtain ⟨id, fires, current⟩ := begins_iff.1 begun
  obtain ⟨id', fires', current'⟩ := begins_iff.1 begun'
  have t := step_transition hs
  have t' := step_transition hs'
  rw [fires] at t
  rw [fires'] at t'
  -- The timer has fired, and whatever is armed from here on fires later.
  have fired : m.after.FiresAfter m.env.now := fun timer firesAt armed asleep =>
    absurd ⟨timer, firesAt, armed, asleep⟩ (t.fires current).2
  have later : m'.before.FiresAfter m.env.now := by
    refine path_fires_after ⟨env₀, first.move hs⟩ third (fun x hx => lively x ?_) base ordered
      unstarted (Nat.le_of_eq t.now.symm) fired
    simp only [List.mem_append, List.mem_cons, List.not_mem_nil, or_false] at hx ⊢
    tauto
  obtain ⟨timer, armed, rfl⟩ := Option.map_eq_some_iff.1 current'
  obtain ⟨firesAt, asleep, due⟩ := t'.due_of_fire
  exact Nat.lt_of_lt_of_le (later timer firesAt armed asleep) due

/-- A timer does not fire before the instant that it was armed for. -/
theorem run_armed_late (run : (system cfg Clock).Run moves env s)
    {earlier rest : List (Move State Event Note)} {m : Move State Event Note}
    (hmoves : moves = earlier ++ m :: rest) {timer : Timer} {delay : Nat}
    (armed : .armed timer delay ∈ m.notes) :
    ArmedFor cfg m.env.now m.before m.event m.notes timer.firesAt ∧
      ∀ x ∈ rest, x.event = .fire timer.id → timer.firesAt ≤ x.env.now := by
  obtain ⟨env₀, path⟩ := run
  obtain ⟨env₁, first, hs, second⟩ := path.cut hmoves
  have t := step_transition hs
  have forward := run_forward ⟨env₀, first⟩
  exact ⟨(t.armed_for armed).2, fun x hx => path_fires_late second (t.now ▸ t.forward forward)
    (t.armed_sleeps forward armed) hx⟩

/-- Refreshes do not storm.

The settings of the cache are valid, every token that is fetched has at least two nanoseconds to
live, and whoever waits for a round goes on as soon as it is over.  Then a refresh whose timer is
that of the cache begins later than every such refresh before it, unless a caller has timers turned
on in between.  A timer that a failed refresh arms never fires before the base delay, or a year if
that is shorter, has passed since the failure; and one that is armed as a token is installed never
fires before the token is due, which is later than now. -/
theorem refreshes_advance {name : String} {parameters : ParameterSet} {settings : Settings}
    (valid : settings.validate = .ok ())
    (run : (system (.ofSettings name parameters settings.tokenCache) Resumes).Run moves env s)
    (lively : ∀ m ∈ moves, Lively (.ofSettings name parameters settings.tokenCache) m) :
    (∀ earlier m between m' rest, moves = earlier ++ m :: (between ++ m' :: rest) →
      begins m = true → begins m' = true → (∀ x ∈ between, starts x = false) →
      m.env.now < m'.env.now) ∧
    (∀ earlier m rest, moves = earlier ++ m :: rest →
      ∀ timer delay, .armed timer delay ∈ m.notes →
      (∀ failures error wait, .refreshFailed failures error wait ∈ m.notes →
        ∀ x ∈ rest, x.event = .fire timer.id →
        m.env.now + min (Span.ofMillis settings.tokenCache.backoff.base) Span.maxLifetime ≤
          x.env.now) ∧
      ∀ h, .installed h ∈ m.notes →
        ∀ x ∈ rest, x.event = .fire timer.id → h.refreshAt ≤ x.env.now) ∧
    ∀ m ∈ moves, ∀ h, .installed h ∈ m.notes → m.env.now < h.refreshAt := by
  obtain ⟨base, ordered⟩ := Settings.backoff_of_validate valid
  refine ⟨fun earlier m between m' rest hmoves begun begun' unstarted =>
    run_begins_later run lively base ordered hmoves begun begun' unstarted, ?_, ?_⟩
  · intro earlier m rest hmoves timer delay armed
    obtain ⟨why, late⟩ := run_armed_late (run_resumes run) hmoves armed
    exact ⟨fun _ _ _ failed x hx fires =>
        Nat.le_trans (why.after_failure ordered failed) (late x hx fires),
      fun h new x hx fires => why.of_installed new ▸ late x hx fires⟩
  · intro m hm h new
    obtain ⟨earlier, rest, _, rfl, first, hs, -⟩ := run.cut_of_mem hm
    exact (step_transition hs).installed_early (run_forward (run_resumes first))
      (run_timely first fun x hx => lively x (List.mem_append_left _ hx)) new

end Run

/-- Failures are followed by a wait of a millisecond at first. -/
def brisk : Settings := { tokenCache := { backoff := { base := 1, limit := 8 } } }

/-- The timer of a token fires, and when its refresh has failed the timer that is armed then. -/
theorem refreshes_advance_retried :
    ∃ earlier m between failing m' env s, brisk.validate = .ok () ∧
      (system (.ofSettings "token" .empty brisk.tokenCache) Resumes).Run
        (earlier ++ m :: (between ++ [failing] ++ [m'])) env s ∧
      begins m = true ∧ begins m' = true ∧ m.env.now < m'.env.now ∧
      (∃ failures error wait, .refreshFailed failures error wait ∈ failing.notes ∧
        failing.env.now + min (Span.ofMillis 1) Span.maxLifetime ≤ m'.env.now) ∧
      ∃ x ∈ earlier, ∃ h, .installed h ∈ x.notes ∧ x.env.now < h.refreshAt := by
  have valid : brisk.validate = .ok () := by decide +kernel
  have fetched : (system (.ofSettings "token" .empty brisk.tokenCache) Resumes).Path .start .start
      _ _ _ :=
    .of_replay [.enter 0 .get, .act (.caller 0), .keyed (.look (.caller 0) .empty),
      .keyed (.decide (.caller 0)),
      .keyed (.finish 0 (.returned (.ok (Token.toResource ⟨"first", 6000000⟩ 0)))),
      .keyed (.settle (.caller 0))] rfl
  have due := fetched.wait (Punctual.resumes
    (show Punctual _ _ (Surroundings.start.pass 3000000) from ⟨by decide, fun _ => by decide⟩)
    (run_orderly ⟨_, fetched⟩))
  have asked := (due.move (e := .fire 0) rfl).trans (.of_replay
    [.keyed (.look (.refresh 0) .empty), .keyed (.decide (.refresh 0)),
      .keyed (.finish 1 (.returned (.error (.plain "down")))), .keyed (.settle (.refresh 0))] rfl)
  have failed := asked.trans (.of_replay [.act (.refresh 0)] rfl)
  have again := failed.wait (Punctual.resumes
    (show Punctual _ _ (Surroundings.start.pass 4000000) from ⟨by decide, fun _ => by decide⟩)
    (run_orderly ⟨_, failed⟩))
  have fired := again.trans (.of_replay [.fire 1] rfl)
  have regroup : ∀ {l l' : List (Move State Event Note)} {x z y env s},
      (system (.ofSettings "token" .empty brisk.tokenCache) Resumes).Path .start .start
        (l ++ [x] ++ l' ++ [z] ++ [y]) env s →
      (system (.ofSettings "token" .empty brisk.tokenCache) Resumes).Path .start .start
        (l ++ x :: (l' ++ [z] ++ [y])) env s := by
    intro l l' x z y env s path
    simpa using path
  have path := regroup fired
  obtain ⟨advance, armed, early⟩ := refreshes_advance valid ⟨_, path⟩ (by decide)
  have resplit : ∀ {l l' : List (Move State Event Note)} {x z y},
      l ++ x :: (l' ++ [z] ++ [y]) = (l ++ x :: l') ++ z :: [y] := by
    intro l l' x z y
    simp
  have later := advance _ _ _ _ [] rfl rfl rfl (by decide)
  refine ⟨_, _, _, _, _, _, _, valid, ⟨_, path⟩, rfl, rfl, later, ⟨_, _, _, .head _, ?_⟩, ?_⟩
  · exact (armed _ _ _ resplit _ _ (.tail _ (.head _))).1 _ _ _ (.head _) _ (.head _) rfl
  · exact ⟨_, List.mem_of_getElem? (show _[5]? = some _ from rfl), _, .tail _ (.head _),
      early _ (List.mem_append_left _ (List.mem_of_getElem? (show _[5]? = some _ from rfl))) _
        (.tail _ (.head _))⟩

end TokenCache
end SingleFlight
