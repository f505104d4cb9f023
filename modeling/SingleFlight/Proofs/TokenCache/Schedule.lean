import SingleFlight.Proofs.TokenCache.Outlasting
import SingleFlight.Proofs.TokenCache.Readers

/-!
The schedule of an outage.

When a token is installed its attempts begin (`Transition.installs`, `Outlasts.start`), and as long
as the source fails the path stays with them (`path_outlasts`).
-/

namespace SingleFlight
namespace TokenCache

open State

variable {cfg : Config} {env env' : Surroundings} {s s' : State} {e : Event} {notes : List Note}
  {since now id : Nat} {h : Held} {l : Attempts}

/-- A token that is installed while timers are on has its timer armed. -/
theorem State.install_enabled (s : State) (now : Nat) (h : Held)
    (enabled : (s.install now h).1.enabled = true) :
    (s.install now h).1.held = some h ∧ (s.install now h).1.failures = 0 ∧
      (s.install now h).1.timer = some ⟨s.nextTimer, h.refreshAt⟩ ∧
      (s.install now h).1.tasks.get? s.nextTimer = some (.sleeping h.refreshAt) := by
  rw [install_fst] at enabled ⊢
  rcases arm_cases _ now h.refreshAt with ⟨-, eq⟩ | ⟨off, eq⟩
  · rw [eq]
    exact ⟨rfl, rfl, rfl, Table.get?_insert_self _ _ _⟩
  · rw [eq] at enabled
    cases off.symm.trans enabled

theorem Transition.installs (t : Transition cfg env s e env' s' notes) (tethered : Tethered now s)
    (new : .installed h ∈ notes) (enabled : s'.enabled = true) :
    s'.held = some h ∧ s'.failures = 0 ∧ s'.timer = some ⟨s.nextTimer, h.refreshAt⟩ ∧
      s'.tasks.get? s.nextTimer = some (.sleeping h.refreshAt) := by
  cases t with
  | @refresh t round r returns _ =>
    obtain rfl : h = heldOf round r := by simpa [mem_install_snd] using new
    obtain ⟨held, failures, timer, sleeps⟩ := install_enabled _ _ _ enabled
    have other : t ≠ s.nextTimer := Nat.ne_of_lt (tethered.numbered t _ returns.returned)
    exact ⟨held, failures, timer, (Table.get?_erase_of_ne other).trans sleeps⟩
  | @fetched _ _ keyed _ _ _ round r _ _ _ =>
    obtain rfl : h = heldOf round r := by simpa [mem_install_snd] using new
    exact install_enabled _ _ _ enabled
  | fetch _ _ => split at new <;> simp at new
  | resume _ _ _ | retry _ _ _ _ _ => simp [mem_arm_snd] at new
  | enter _ _ | serve _ _ | keep _ _ | idle _ _ _ | stop _ | discard _ _ | giveUp _ _ _
  | keyed _ _ _ | failed _ _ _ | returned _ _ _ | fire _ _ _ | quit _ _ | cancel _ | addHandle _
  | dropHandle _ => simp at new

/-! ## What the attempts come to -/

namespace Outlasts

/-- The token has just been installed, and its timer armed. -/
theorem start (forward : Forward cfg env.now s) (held : s.held = some h) (failures : s.failures = 0)
    (timer : s.timer = some ⟨id, h.refreshAt⟩)
    (sleeps : s.tasks.get? id = some (.sleeping h.refreshAt)) (reachable : 0 < s.handles)
    (callers : ∀ n stage, s.callers.get? n = some stage →
      stage ≠ .queued .stop ∧ env.now < h.token.expiresAt)
    (calm : h.refreshAt ≤ env.now → Calm cfg env s) :
    Outlasts cfg env.now h env.now s (attempts []) := by
  have lasts : Lasts h 0 env.now s := by
    refine ⟨held, forward.tethered.enabled _ timer, reachable, failures, fun n stage there => ?_⟩
    obtain ⟨unstopped, early⟩ := callers n stage there
    refine ⟨?_, early⟩
    cases stage with
    | queued wish =>
      cases wish with
      | get => exact .inl rfl
      | start => exact .inr rfl
      | stop => exact absurd rfl unstopped
    | fetching =>
      have expired := usable?_eq_none_iff.1 (forward.inLine.fetching n there).2 h held
      omega
  refine ⟨Nat.le_refl _, lasts, .start cfg env.now h,
    .asleep id timer sleeps (Nat.le_max_left _ _) ⟨rfl, rfl, rfl⟩ nofun ?_⟩
  refine (Nat.lt_or_ge env.now h.refreshAt).imp_right fun due => ?_
  have calm := calm due
  have only : ∀ t task, s.tasks.get? t = some task →
      t = id ∨ Leaving cfg env.now s.keyed t task := by
    intro t task there
    refine (calm.tasks t task there).imp_left fun current => ?_
    rw [timer] at current
    exact (Option.some.inj current).symm
  refine ⟨only, ⟨fun n running => absurd running (calm.running n),
    fun n r stored => .inr fun env' late => ?_⟩, fun a stage working => ?_⟩
  · exact forward.stale_later stored (calm.stale n r stored)
      (Nat.le_trans (Nat.le_max_left _ _) late)
  · obtain ⟨t, rfl, requesting⟩ := lasts.requests (forward.orderly.atWork a stage working)
    refine .inr ((only t _ requesting).resolve_left ?_)
    rintro rfl
    cases requesting.symm.trans sleeps

/-- The source has been called at most once for each attempt, and once if the attempt has ended. -/
theorem calls (o : Outlasts cfg since h now s l) :
    l.ended.length ≤ l.called.length ∧ l.called.length ≤ l.begun.length := by
  cases o.stage with
  | asleep _ _ _ _ level _ _ | lapsed _ _ _ _ level _ _ _ _ => exact level.calls
  | back _ _ _ _ _ fetched => exact fetched.calls
  | asking _ _ _ _ asking =>
    cases asking with
    | looking _ way => exact way.calls (Nat.zero_le _)
    | fetching _ _ _ _ way => exact way.calls (Nat.le_refl _)
    | fetched _ _ _ fetched => exact fetched.calls

theorem outlook (o : Outlasts cfg since h env.now s l) (forward : Forward cfg env.now s) :
    Outlook cfg since h env s l := by
  cases o.stage with
  | asleep id armed sleeps on_time level alive _ =>
    refine .attempt id armed sleeps level.begun alive on_time fun ticked => ?_
    have due := Nat.le_trans (Instant.le_tick _) ticked
    have reachable : s.isReachable = true := isReachable_iff.2 (.inl o.lasts.handles)
    simp [TokenCache.step, sleeps, due, reachable]
  | asking id counts requests _ asking =>
    refine .failure id (.refresh id) counts ?_ (.inl rfl)
      (forward.ready_of_requests (mayRequest_refresh.2 requests))
    cases asking with
    | looking _ way => exact way.begun
    | fetching _ _ _ _ way => exact way.begun
    | fetched _ _ _ fetched => exact fetched.begun
  | back id counts returned _ _ fetched =>
    obtain ⟨a, holds⟩ := forward.inLine.taken (a := .refresh id) ⟨_, _, returned⟩
    exact .failure id a counts fetched.begun (.inr holds) (forward.ready holds)
  | lapsed _ off _ _ level last late _ _ => exact .nothing off level.begun last late

/-- An attempt that ends when the token has expired is the last one. -/
theorem last (o : Outlasts cfg since h env.now s l) (forward : Forward cfg env.now s) {k c : Nat}
    (hc : l.ended[k]? = some c) (late : h.token.expiresAt ≤ c) :
    l.begun.length = k + 1 ∧ s.timer = none := by
  obtain ⟨there, -⟩ := List.getElem?_eq_some_iff.1 hc
  have no_more : l.begun.length ≤ k + 1 := by
    refine Nat.le_of_not_lt fun more => ?_
    obtain ⟨c', hc', early, -⟩ := o.schedule.next k _ (List.getElem?_eq_getElem more)
    obtain rfl := Option.some.inj (hc.symm.trans hc')
    omega
  cases o.outlook forward with
  | attempt id _ _ level alive _ _ =>
    have count : l.ended.length - 1 = k := by omega
    have early := alive c (by rw [List.getLast?_eq_getElem?, count]; exact hc)
    omega
  | failure _ _ _ level _ _ => omega
  | nothing off level _ _ => exact ⟨by omega, off⟩

end Outlasts

/-! ## Runs -/

section Run

variable {moves later : List (Move State Event Note)}

theorem path_outlasts (run : (system cfg Clock).Run moves env s)
    (start : Outlasts cfg env.now h env.now s (attempts []))
    (path : (system cfg Punctual).Path env s later env' s')
    (outage : ∀ m ∈ later, Outage cfg h.token.expiresAt m.env m.before m.event) :
    Forward cfg env'.now s' ∧ Outlasts cfg env.now h env'.now s' (attempts later) := by
  obtain ⟨env₀, first⟩ := run
  have clocked : ∀ {later env' s'}, (system cfg Punctual).Path env s later env' s' →
      (system cfg Clock).Run (moves ++ later) env' s' := fun path =>
    ⟨env₀, first.trans (path.mono fun punctual => punctual.1)⟩
  refine ⟨run_forward (clocked path), ?_⟩
  induction path with
  | nil => exact start
  | wait path punctual ih =>
    have run := clocked path
    exact (ih outage).wait (run_forward run) (run_kept run) punctual
  | move path hs ih =>
    have run := clocked path
    have t := step_transition hs
    rw [attempts_concat, t.now]
    exact (ih fun m hm => outage m (List.mem_append_left _ hm)).step (run_forward run)
      (run_kept run) t (outage _ (List.mem_append_right _ (.head _)))

/-- While its source fails a token is kept until it has expired, and the attempts to replace it are
made when they are due.

The path starts where a token has been installed, timers are on, the cache can be reached, and
whoever calls comes before the token has expired.  If the token is due at once, nothing must be left
over that its first attempt would share instead of making a fetch of its own: other refreshes may
have an outcome to take, but must not look for a token any more (`Calm`).  On the path every fetch
fails, in its own time and not because of the configuration, and the clock stands still while
anybody has something to do.

Then the attempts follow the `Schedule`: the first begins at the tick that the refresh instant asks
for, and each other one at the tick that the wait after the failure before it asks for, if the token
was alive then.  Every attempt calls the source once, and fails when its fetch has ended.  Failures
are counted as far as the counter goes, and the token stays.  An attempt that fails after the token
has expired is the last, and leaves no timer.

Nothing gets stuck on the way: `Outlook` says that there is always a next attempt, which can begin
when it is due, or an attempt under way, whose refresh can go on, or nothing left to do.  Callers
that are answered are given the token, and as long as any is there who has the lock can act and
hands it on. -/
theorem outage_schedule {env₀ : Surroundings} {s₀ : State}
    {moves later : List (Move State Event Note)} (run : (system cfg Clock).Run moves env₀ s₀)
    (installs : step cfg env₀ s₀ e = some (env, s, notes)) (new : .installed h ∈ notes)
    (enabled : s.enabled = true) (reachable : 0 < s.handles)
    (callers : ∀ n stage, s.callers.get? n = some stage →
      stage ≠ .queued .stop ∧ env.now < h.token.expiresAt)
    (calm : h.refreshAt ≤ env.now → Calm cfg env s)
    (path : (system cfg Punctual).Path env s later env' s')
    (outage : ∀ m ∈ later, Outage cfg h.token.expiresAt m.env m.before m.event) :
    let l := attempts later
    Schedule cfg env.now h l ∧
    (l.ended.length ≤ l.called.length ∧ l.called.length ≤ l.begun.length) ∧
    (s'.held = some h ∧ s'.failures = min l.ended.length failureBound) ∧
    (∀ k c : Nat, l.ended[k]? = some c → h.token.expiresAt ≤ c →
      l.begun.length = k + 1 ∧ s'.timer = none) ∧
    Outlook cfg env.now h env' s' l ∧
    (∀ m ∈ later, ∀ n result, .answered n result ∈ m.notes → result = .ok h.token) ∧
    ∀ n stage, s'.callers.get? n = some stage → env'.now < h.token.expiresAt ∧
      ∃ a s'' notes, s'.holder = some a ∧
        step cfg env' s' (.act a) = some (env', s'', notes) ∧ s''.line = s'.queue := by
  intro l
  have t := step_transition installs
  have ⟨env₁, first⟩ := run
  have installed : (system cfg Clock).Run (moves ++ [⟨env₀, s₀, e, notes, s⟩]) env s :=
    ⟨env₁, first.move installs⟩
  obtain ⟨held, failures, timer, sleeps⟩ := t.installs (run_tethered run) new enabled
  have start := Outlasts.start (run_forward installed) held failures timer sleeps reachable callers
    calm
  obtain ⟨forward, o⟩ := path_outlasts installed start path outage
  refine ⟨o.schedule, o.calls, ⟨o.lasts.held, o.lasts.failures⟩, fun k c => o.last forward,
    o.outlook forward, ?_, ?_⟩
  · intro m hm n result answered
    obtain ⟨earlier, rest, rfl⟩ := List.append_of_mem hm
    obtain ⟨_, first, hs, -⟩ := path.cut rfl
    obtain ⟨forward, o⟩ := path_outlasts installed start first fun m' hm' =>
      outage m' (List.mem_append_left _ hm')
    exact o.answered forward (step_transition hs) answered
  · intro n stage there
    have early := (o.lasts.callers n stage there).2
    have usable : s'.usable? env'.now = some h := usable?_eq_some_iff.2 ⟨o.lasts.held, early⟩
    obtain ⟨a, holds⟩ := forward.inLine.taken (a := .caller n) ⟨stage, there⟩
    obtain ⟨s'', notes, acts⟩ : ∃ s'' notes, step cfg env' s' (.act a) = some (env', s'', notes) :=
      forward.inLine.can_act usable holds
    exact ⟨early, a, s'', notes, holds, acts, ((step_transition acts).acted usable).2.1⟩

end Run

/-- Tokens are refreshed three and a half milliseconds before they expire. -/
def impatient : Config :=
  { name := "token", parameters := .empty, lead := 3500000, backoff := { base := 1, limit := 8 } }

/-- The source fails twice.  The first attempt ends while the token is alive, and a reader that asks
meanwhile is given the token; the second one, a wait of one millisecond and a tick later, ends as
the token expires. -/
theorem outage_schedule_twice :
    ∃ later env s s', (system impatient Punctual).Path .start s later env s' ∧
      Schedule impatient 0 ⟨⟨"first", 5000000⟩, 1500000, 0⟩ (attempts later) ∧
      attempts later = ⟨[2000000, 4000000], [2000000, 4000000], [100000, 1000000],
        [2100000, 5000000]⟩ ∧
      s'.held = some ⟨⟨"first", 5000000⟩, 1500000, 0⟩ ∧ s'.failures = min 2 failureBound ∧
      s'.timer = none ∧
      (∃ m ∈ later, ∃ result, .answered 1 result ∈ m.notes) ∧
      ∀ m ∈ later, ∀ n result, .answered n result ∈ m.notes → result = .ok ⟨"first", 5000000⟩ := by
  have fetched : (system impatient Clock).Path .start .start _ _ _ :=
    .of_replay [.enter 0 .get, .act (.caller 0), .keyed (.look (.caller 0) .empty),
      .keyed (.decide (.caller 0)),
      .keyed (.finish 0 (.returned (.ok (Token.toResource ⟨"first", 5000000⟩ 0))))] rfl
  have installed := fetched.move (e := .keyed (.settle (.caller 0))) rfl
  -- From here on the clock stands still while anybody has something to do.
  have here : ∀ {moves env s}, (system impatient Clock).Path .start .start moves env s →
      (system impatient Punctual).Path env s [] env s := fun _ => .nil
  have due := (here installed).wait
    (show Punctual _ _ (Surroundings.start.pass 2000000) from ⟨by decide, fun _ => by decide⟩)
  have asked := due.trans (.of_replay [.fire 0, .keyed (.look (.refresh 0) .empty),
    .keyed (.decide (.refresh 0)), .enter 1 .get, .act (.caller 1)] rfl)
  have waited := asked.wait
    (show Punctual _ _ (Surroundings.start.pass 2100000) from ⟨by decide, fun _ => by decide⟩)
  have failed := waited.trans (.of_replay
    [.keyed (.finish 1 (.returned (.error (.plain "down")))), .keyed (.settle (.refresh 0)),
      .act (.refresh 0)] rfl)
  have again := failed.wait
    (show Punctual _ _ (Surroundings.start.pass 4000000) from ⟨by decide, fun _ => by decide⟩)
  have asked' := again.trans (.of_replay [.fire 1, .keyed (.look (.refresh 1) .empty),
    .keyed (.decide (.refresh 1))] rfl)
  have expired := asked'.wait
    (show Punctual _ _ (Surroundings.start.pass 5000000) from ⟨by decide, fun _ => by decide⟩)
  have lapsed := expired.trans (.of_replay
    [.keyed (.finish 2 (.returned (.error (.plain "down")))), .keyed (.settle (.refresh 1)),
      .act (.refresh 1)] rfl)
  obtain ⟨schedule, -, ⟨held, failures⟩, last, -, answers, -⟩ := outage_schedule ⟨_, fetched⟩
    (e := .keyed (.settle (.caller 0))) rfl (h := ⟨⟨"first", 5000000⟩, 1500000, 0⟩)
    (.tail _ (.head _)) rfl (by decide) nofun (fun due => absurd due (by decide)) lapsed (by decide)
  exact ⟨_, _, _, _, lapsed, schedule, rfl, held, failures, (last 1 5000000 rfl (by decide)).2,
    ⟨_, .tail _ (.tail _ (.tail _ (.tail _ (.head _)))), _, .head _⟩, answers⟩

end TokenCache
end SingleFlight
