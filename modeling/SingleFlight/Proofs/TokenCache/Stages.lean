import SingleFlight.Proofs.TokenCache.Outage

/-!
How far the attempts have come.

The timer of a held token sleeps, or its refresh has its request under way, or has failed and is on
its way back, or has failed for the last time (`Stage`).  At its request it is alone, but for
refreshes that are leaving (`Alone`), so that what happens at the keyed cache is what it does itself
(`Alone.stride`) or one of these that takes its outcome (`Alone.answered`).

Where a token is due as soon as it is installed, the refreshes left over have to be leaving already
(`Calm`), or the first attempt might share a fetch with one of them.
-/

namespace SingleFlight
namespace TokenCache

open State

/-- The task neither fires now nor looks for a token any more: its tick is yet to come, or it waits
for a round that has ended, or it has been answered. -/
def Leaving (cfg : Config) (now : Nat) (k : Cache.State Agent ParameterSet Token) (t : Nat) :
    Task → Prop
  | .sleeping firesAt => now < Instant.tick firesAt
  | .requesting => k.Settling cfg.parameters (.refresh t)
  | .returned _ _ => True

/-- All tasks but that of one timer are leaving, and nothing serves that one. -/
structure Alone (cfg : Config) (due id now : Nat) (s : State) : Prop where
  only : ∀ t task, s.tasks.get? t = some task → t = id ∨ Leaving cfg now s.keyed t task
  sole : Cache.Sole s.keyed (.refresh id) cfg.parameters due

/-- All tasks but that of the timer are leaving, and the keyed cache has neither a fetch under way
nor a resource that is valid. -/
structure Calm (cfg : Config) (env : Surroundings) (s : State) : Prop where
  tasks : ∀ t task, s.tasks.get? t = some task →
    s.timer.map Timer.id = some t ∨ Leaving cfg env.now s.keyed t task
  running : ∀ n, ¬ s.keyed.Running cfg.parameters n
  stale : ∀ n r, s.keyed.Stored cfg.parameters n r → (r.validity.check env).1 = false

/-- The refresh has its request under way. -/
inductive Asking (cfg : Config) (now : Nat) (k : Cache.State Agent ParameterSet Token) (a : Agent)
    (l : Attempts) : Prop where
  | looking : (∀ n, k.callers.get? a ≠ some (.awaiting cfg.parameters n)) → l.UnderWay now 0 0 →
      Asking cfg now k a l
  | fetching {n r} : k.callers.get? a = some (.awaiting cfg.parameters n) → k.rounds n = some r →
      r.outcome = none → r.startedAt ≤ now → l.UnderWay r.startedAt 1 0 → Asking cfg now k a l
  | fetched {n e} : k.callers.get? a = some (.awaiting cfg.parameters n) →
      k.outcome? n = some (.error e) → e.isConfiguration = false → l.Fetched now →
      Asking cfg now k a l

inductive Stage (cfg : Config) (since : Nat) (h : Held) (now : Nat) (s : State) (l : Attempts) :
    Prop where
  /-- The next attempt is to come. -/
  | asleep (id) : s.timer = some ⟨id, l.due cfg h⟩ →
      s.tasks.get? id = some (.sleeping (l.due cfg h)) →
      now ≤ max since (Instant.tick (l.due cfg h)) → l.Level →
      (∀ c, l.ended.getLast? = some c → c < h.token.expiresAt) →
      now < h.refreshAt ∨ Alone cfg (max since h.refreshAt) id now s → Stage cfg since h now s l
  | asking (id) : s.timer.map Timer.id = some id → s.tasks.get? id = some .requesting →
      Alone cfg (max since h.refreshAt) id now s → Asking cfg now s.keyed (.refresh id) l →
      Stage cfg since h now s l
  /-- The attempt has failed, and waits for the lock or has it. -/
  | back (id) {round e} : s.timer.map Timer.id = some id →
      s.tasks.get? id = some (.returned round (.error e)) → e.isConfiguration = false →
      Alone cfg (max since h.refreshAt) id now s → l.Fetched now → Stage cfg since h now s l
  /-- The last attempt ended when the token had expired. -/
  | lapsed (id) {c} : s.timer = none → s.tasks.get? id = none →
      Alone cfg (max since h.refreshAt) id now s → l.Level → l.ended.getLast? = some c →
      h.token.expiresAt ≤ c → c ≤ now → h.refreshAt ≤ now → Stage cfg since h now s l

/-- The token is held, and all callers come before it has expired. -/
structure Lasts (h : Held) (failures now : Nat) (s : State) : Prop where
  held : s.held = some h
  enabled : s.enabled = true
  handles : 0 < s.handles
  failures : s.failures = min failures failureBound
  callers : ∀ n stage, s.callers.get? n = some stage →
    (stage = .queued .get ∨ stage = .queued .start) ∧ now < h.token.expiresAt

/-- The token is held, and the attempts to replace it are made in time. -/
structure Outlasts (cfg : Config) (since : Nat) (h : Held) (now : Nat) (s : State) (l : Attempts) :
    Prop where
  later : since ≤ now
  lasts : Lasts h l.ended.length now s
  schedule : Schedule cfg since h l
  stage : Stage cfg since h now s l

/-- What is to come: the next attempt, when it is due; the end of the one that is under way, which
is not stuck; or nothing any more. -/
inductive Outlook (cfg : Config) (since : Nat) (h : Held) (env : Surroundings) (s : State)
    (l : Attempts) : Prop where
  | attempt (id) : s.timer = some ⟨id, l.due cfg h⟩ →
      s.tasks.get? id = some (.sleeping (l.due cfg h)) → l.begun.length = l.ended.length →
      (∀ c, l.ended.getLast? = some c → c < h.token.expiresAt) →
      env.now ≤ max since (Instant.tick (l.due cfg h)) →
      (Instant.tick (l.due cfg h) ≤ env.now →
        ∃ result, step cfg env s (.fire id) = some result) → Outlook cfg since h env s l
  | failure (id a) : s.timer.map Timer.id = some id → l.begun.length = l.ended.length + 1 →
      a = .refresh id ∨ s.holder = some a → Ready cfg env s a → Outlook cfg since h env s l
  | nothing {c} : s.timer = none → l.begun.length = l.ended.length →
      l.ended.getLast? = some c → h.token.expiresAt ≤ c → Outlook cfg since h env s l

section Stages

variable {cfg : Config} {env env' : Surroundings} {s s' : State} {e : Event} {notes : List Note}
  {since now id n : Nat} {h : Held} {l : Attempts} {a : Agent}

theorem Lasts.idle {failures : Nat} (lasts : Lasts h failures now s) (n : Nat) :
    s.callers.get? n ≠ some .fetching := by
  intro fetching
  rcases (lasts.callers n _ fetching).1 with same | same <;> cases same

/-- Only refreshes have requests to make. -/
theorem Lasts.requests {failures : Nat} (lasts : Lasts h failures now s)
    (requests : s.mayRequest a = true) :
    ∃ t, a = .refresh t ∧ s.tasks.get? t = some .requesting := by
  cases a with
  | caller n => exact absurd (mayRequest_caller.1 requests) (lasts.idle n)
  | refresh t => exact ⟨t, rfl, mayRequest_refresh.1 requests⟩

/-- The callers are among those that were there. -/
theorem Lasts.stays {failures : Nat} (lasts : Lasts h failures now s) (held : s'.held = s.held)
    (enabled : s'.enabled = s.enabled) (handles : s'.handles = s.handles)
    (failed : s'.failures = s.failures)
    (callers : ∀ n stage, s'.callers.get? n = some stage → s.callers.get? n = some stage) :
    Lasts h failures now s' where
  held := held.trans lasts.held
  enabled := enabled.trans lasts.enabled
  handles := by rw [handles]; exact lasts.handles
  failures := failed.trans lasts.failures
  callers n stage there := lasts.callers n stage (callers n stage there)

theorem Lasts.fails {failures : Nat} (lasts : Lasts h failures now s) (error : ResourceError)
    (held : s'.held = s.held) (enabled : s'.enabled = s.enabled) (handles : s'.handles = s.handles)
    (failed : s'.failures = (s.noteFailure error).failures) (callers : s'.callers = s.callers) :
    Lasts h (failures + 1) now s' where
  held := held.trans lasts.held
  enabled := enabled.trans lasts.enabled
  handles := by rw [handles]; exact lasts.handles
  failures := by
    rw [failed, noteFailure, lasts.failures]
    dsimp only
    omega
  callers := by rw [callers]; exact lasts.callers

/-! ## Who else is there -/

/-- Who is leaving goes on to leave. -/
theorem Leaving.stays {t : Nat} {task : Task} (leaving : Leaving cfg env.now s.keyed t task)
    (forward : Forward cfg env.now s) {ke : Cache.Event Agent ParameterSet Token}
    {k : Cache.State Agent ParameterSet Token}
    {known : List (Cache.Note Agent ParameterSet Token)} (permits : s.Permits cfg ke)
    (tr : Cache.Transition ParameterSet.text env s.keyed (arriving cfg env.now ke) env' k known)
    (untold : ∀ key round o, .answered (.refresh t) key round o ∉ known) :
    Leaving cfg env.now k t task := by
  cases task with
  | sleeping _ | returned _ _ => exact leaving
  | requesting =>
    refine tr.settling forward.coherent leaving untold fun drop => ?_
    cases ke with
    | drop _ => exact permits
    | look _ _ | decide _ | finish _ _ | settle _ => cases drop

namespace Alone

variable {due : Nat} {ke : Cache.Event Agent ParameterSet Token}
  {k : Cache.State Agent ParameterSet Token} {known : List (Cache.Note Agent ParameterSet Token)}

theorem stride {failures : Nat} (alone : Alone cfg due id env.now s)
    (forward : Forward cfg env.now s) (lasts : Lasts h failures env.now s) (late : due ≤ env.now)
    (permits : s.Permits cfg ke)
    (t : Cache.Transition ParameterSet.text env s.keyed (arriving cfg env.now ke) env' k known) :
    Cache.Stride ParameterSet.text env s.keyed k (.refresh id) cfg.parameters
        (arriving cfg env.now ke) known ∧
      (Cache.Sole k (.refresh id) cfg.parameters due ∨
        ∃ round r, known = [.answered (.refresh id) cfg.parameters round (.ok r)]) := by
  refine forward.stride permits t alone.sole late fun b requests free => ?_
  obtain ⟨t', rfl, there⟩ := lasts.requests requests
  rcases alone.only t' _ there with rfl | ⟨_, _, awaits, -⟩
  · rfl
  · cases free.symm.trans awaits

/-- While its own task makes no request, all that happens at the keyed cache is that others
settle. -/
theorem others_settle {failures : Nat} (alone : Alone cfg due id env.now s)
    (forward : Forward cfg env.now s) (lasts : Lasts h failures env.now s) (late : due ≤ env.now)
    (permits : s.Permits cfg ke)
    (t : Cache.Transition ParameterSet.text env s.keyed (arriving cfg env.now ke) env' k known)
    (unasked : s.mayRequest (.refresh id) ≠ true) :
    ∃ a key round outcome, .answered a key round outcome ∈ known := by
  obtain ⟨stride, -⟩ := alone.stride forward lasts late permits t
  have idle := forward.orderly.not_at_work unasked
  generalize harriving : arriving cfg env.now ke = arrived at stride
  cases stride with
  | defers _ _ =>
    obtain rfl := of_arriving harriving (by simp)
    exact absurd (forward.orderly.moves permits t rfl) unasked
  | starts awaits _ _ | ends awaits _ _ _ _ => cases idle.symm.trans awaits
  | settles _ _ _ | others _ _ _ => exact ⟨_, _, _, _, .head _⟩

/-- When the clock moves all others have left. -/
theorem rest {later : Nat} (alone : Alone cfg due id now s) (rest : AtRest s later)
    (nobody : ∀ a, ¬ s.Asks a) (timer : ∀ t, s.timer.map Timer.id = some t → t = id) :
    Alone cfg due id later s := by
  refine ⟨fun t task there => .inl ?_, alone.sole⟩
  rcases alone.only t task there with same | leaving
  · exact same
  cases task with
  | sleeping firesAt => exact timer t (rest.timers t firesAt there).1
  | returned round outcome => exact absurd ⟨_, _, there⟩ (nobody (.refresh t))
  | requesting =>
    obtain ⟨n, o, awaits, ended⟩ := leaving
    obtain ⟨key, round, awaits', unfinished⟩ :=
      isWaiting_iff.1 (rest.fetches _ (mayRequest_refresh.2 there))
    obtain ⟨-, rfl⟩ : cfg.parameters = key ∧ n = round := by simpa using awaits.symm.trans awaits'
    cases unfinished.symm.trans ended

/-- Once a task has been answered the others are leaving as before. -/
theorem only_of_answered {t' round : Nat} {key : ParameterSet}
    {outcome : Outcome (Resource Token)} (alone : Alone cfg due id env.now s)
    (forward : Forward cfg env.now s) (permits : s.Permits cfg ke)
    (tr : Cache.Transition ParameterSet.text env s.keyed (arriving cfg env.now ke) env' k
      [.answered (.refresh t') key round outcome])
    (keyed : s'.keyed = k) (tasks : s'.tasks = s.tasks.insert t' (.returned round outcome))
    (t : Nat) (task : Task) (there : s'.tasks.get? t = some task) :
    t = id ∨ Leaving cfg env.now s'.keyed t task := by
  rw [tasks] at there
  rw [keyed]
  rcases Table.get?_of_get?_insert there with ⟨-, rfl⟩ | ⟨ne, before⟩
  · exact .inr trivial
  · refine (alone.only t task before).imp_right fun leaving => leaving.stays forward permits tr ?_
    rintro _ _ _ told
    obtain ⟨rfl, -⟩ := by simpa using told
    exact ne rfl

/-- Another task is answered. -/
theorem answered {failures t' round : Nat} {key : ParameterSet} {outcome : Outcome (Resource Token)}
    (alone : Alone cfg due id env.now s) (forward : Forward cfg env.now s)
    (lasts : Lasts h failures env.now s) (late : due ≤ env.now) (permits : s.Permits cfg ke)
    (t : Cache.Transition ParameterSet.text env s.keyed (arriving cfg env.now ke) env' k known)
    (ha : .answered (.refresh t') key round outcome ∈ known) (other : t' ≠ id)
    (keyed : s'.keyed = k) (tasks : s'.tasks = s.tasks.insert t' (.returned round outcome)) :
    known = [.answered (.refresh t') key round outcome] ∧
      k.callers.get? (.refresh id) = s.keyed.callers.get? (.refresh id) ∧
      k.rounds = s.keyed.rounds ∧ Alone cfg due id env.now s' := by
  obtain ⟨stride, sole⟩ := alone.stride forward lasts late permits t
  generalize harriving : arriving cfg env.now ke = arrived at stride
  cases stride with
  | defers _ _ => cases ha
  | starts _ _ _ | ends _ _ _ _ _ => simp at ha
  | settles _ _ _ =>
    obtain ⟨rfl, -⟩ := by simpa using ha
    exact absurd rfl other
  | others _ same rounds =>
    obtain ⟨rfl, rfl, rfl, rfl⟩ := by simpa using ha
    refine ⟨rfl, same, rounds, alone.only_of_answered forward permits t keyed tasks, ?_⟩
    rw [keyed]
    refine sole.resolve_right ?_
    rintro ⟨_, _, same⟩
    obtain ⟨rfl, -⟩ := by simpa using same
    exact other rfl

end Alone

theorem Asking.of_eq {k k' : Cache.State Agent ParameterSet Token} (asking : Asking cfg now k a l)
    (same : k'.callers.get? a = k.callers.get? a) (rounds : k'.rounds = k.rounds) :
    Asking cfg now k' a l := by
  cases asking with
  | looking idle way => exact .looking (by rw [same]; exact idle) way
  | fetching awaits hround unfinished begun way =>
    exact .fetching (same.trans awaits) (by rw [rounds]; exact hround) unfinished begun way
  | fetched awaits failed temporary fetched =>
    refine .fetched (same.trans awaits) ?_ temporary fetched
    rw [Cache.State.outcome?, rounds]
    exact failed

theorem Alone.of_eq {due : Nat} (alone : Alone cfg due id now s) (tasks : s'.tasks = s.tasks)
    (keyed : s'.keyed = s.keyed) : Alone cfg due id now s' :=
  ⟨by rw [tasks, keyed]; exact alone.only, by rw [keyed]; exact alone.sole⟩

/-- The task is that of the timer, or it is that of the last attempt and has ended. -/
def State.Owns (s : State) (id : Nat) : Prop :=
  s.timer.map Timer.id = some id ∨ s.tasks.get? id = none

theorem State.Owns.ne {t : Nat} {task : Task} (own : s.Owns id)
    (there : s.tasks.get? t = some task) (other : s.timer.map Timer.id ≠ some t) : t ≠ id := by
  rintro rfl
  rcases own with counts | ended
  · exact other counts
  · cases ended.symm.trans there

/-- What the task of the timer is up to. -/
theorem Stage.of_timer (stage : Stage cfg since h now s l) {t : Nat} {task : Task}
    (counts : s.timer.map Timer.id = some t) (there : s.tasks.get? t = some task) :
    (task = .sleeping (l.due cfg h) ∧ s.timer = some ⟨t, l.due cfg h⟩ ∧
      now ≤ max since (Instant.tick (l.due cfg h)) ∧ l.Level ∧
      (∀ c, l.ended.getLast? = some c → c < h.token.expiresAt) ∧
      (now < h.refreshAt ∨ Alone cfg (max since h.refreshAt) t now s)) ∨
    (task = .requesting ∧ Alone cfg (max since h.refreshAt) t now s ∧
      Asking cfg now s.keyed (.refresh t) l) ∨
    ∃ round e, task = .returned round (.error e) ∧ e.isConfiguration = false ∧
      Alone cfg (max since h.refreshAt) t now s ∧ l.Fetched now := by
  cases stage with
  | asleep id armed sleeps on_time level alive room =>
    obtain rfl : id = t := by simpa [armed] using counts
    exact .inl ⟨Option.some.inj (there.symm.trans sleeps), armed, on_time, level, alive, room⟩
  | asking id counts' requests alone asking =>
    obtain rfl := Option.some.inj (counts'.symm.trans counts)
    exact .inr (.inl ⟨Option.some.inj (there.symm.trans requests), alone, asking⟩)
  | back id counts' returned temporary alone fetched =>
    obtain rfl := Option.some.inj (counts'.symm.trans counts)
    exact .inr (.inr ⟨_, _, Option.some.inj (there.symm.trans returned), temporary, alone, fetched⟩)
  | lapsed _ off _ _ _ _ _ _ _ => simp [off] at counts

/-- What the attempts do not notice leaves them where they are. -/
theorem Stage.frame (stage : Stage cfg since h now s l) (timer : s'.timer = s.timer)
    (tasks : ∀ id, s.Owns id → s'.tasks.get? id = s.tasks.get? id)
    (alone : ∀ id, s.Owns id → Alone cfg (max since h.refreshAt) id now s →
      Alone cfg (max since h.refreshAt) id now s')
    (asking : ∀ id, s.Owns id → Alone cfg (max since h.refreshAt) id now s →
      Asking cfg now s.keyed (.refresh id) l → Asking cfg now s'.keyed (.refresh id) l) :
    Stage cfg since h now s' l := by
  cases stage with
  | asleep id armed sleeps on_time level alive room =>
    have own : s.Owns id := .inl (by rw [armed]; rfl)
    exact .asleep id (timer.trans armed) ((tasks id own).trans sleeps) on_time level alive
      (room.imp_right (alone id own))
  | asking id counts requests alone' asking' =>
    have own : s.Owns id := .inl counts
    exact .asking id (by rw [timer]; exact counts) ((tasks id own).trans requests)
      (alone id own alone') (asking id own alone' asking')
  | back id counts returned temporary alone' fetched =>
    have own : s.Owns id := .inl counts
    exact .back id (by rw [timer]; exact counts) ((tasks id own).trans returned) temporary
      (alone id own alone') fetched
  | lapsed id off ended alone' level last late past due =>
    have own : s.Owns id := .inr ended
    exact .lapsed id (timer.trans off) ((tasks id own).trans ended) (alone id own alone') level last
      late past due

end Stages

end TokenCache
end SingleFlight
