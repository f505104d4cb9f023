import SingleFlight.Proofs.TokenCache.Stages

/-!
No move leads out of an outage.

There is a lemma for each thing that can happen to the attempts: the timer fires (`fires`), the
refresh takes a step at the keyed cache (`keyed`), it is answered (`returned`), it fails for the
last time (`gives_up`) or not (`retries`).  What others do leaves the timer and its task alone:
callers (`aside`), and refreshes that do not count any more (`left_over`, `answered_aside`,
`ends_aside`).  `step` puts the moves together, and `wait` is about the clock.
-/

namespace SingleFlight
namespace TokenCache

open State

section Outlasts

variable {cfg : Config} {env env' : Surroundings} {s s' : State} {e : Event} {notes : List Note}
  {since now id n : Nat} {h : Held} {l : Attempts} {a : Agent}

namespace Outlasts

/-- A move that leaves the timer, the tasks and the keyed cache alone. -/
theorem aside (o : Outlasts cfg since h now s l) (lasts : Lasts h l.ended.length now s')
    (timer : s'.timer = s.timer) (tasks : s'.tasks = s.tasks) (keyed : s'.keyed = s.keyed) :
    Outlasts cfg since h now s' l :=
  ⟨o.later, lasts, o.schedule, o.stage.frame timer (fun _ _ => by rw [tasks])
    (fun _ _ alone => alone.of_eq tasks keyed) (fun _ _ _ asking => by rw [keyed]; exact asking)⟩

/-- Once the token is due all tasks but one are leaving. -/
theorem alone (o : Outlasts cfg since h now s l) (due : h.refreshAt ≤ now) :
    ∃ id, s.Owns id ∧ Alone cfg (max since h.refreshAt) id now s := by
  cases o.stage with
  | asleep id armed _ _ _ _ room =>
    exact ⟨id, .inl (by rw [armed]; rfl), room.resolve_left (Nat.not_lt.2 due)⟩
  | asking id counts _ alone _ | back id counts _ _ alone _ => exact ⟨id, .inl counts, alone⟩
  | lapsed id _ ended alone _ _ _ _ _ => exact ⟨id, .inr ended, alone⟩

/-- Before the token is due its timer sleeps. -/
theorem asleep_of_early (o : Outlasts cfg since h now s l) (forward : Forward cfg now s)
    (early : now < h.refreshAt) :
    ∃ id, s.timer = some ⟨id, l.due cfg h⟩ ∧ s.tasks.get? id = some (.sleeping (l.due cfg h)) ∧
      now ≤ max since (Instant.tick (l.due cfg h)) ∧ l.Level ∧
      ∀ c, l.ended.getLast? = some c → c < h.token.expiresAt := by
  cases o.stage with
  | asleep id armed sleeps on_time level alive _ =>
    exact ⟨id, armed, sleeps, on_time, level, alive⟩
  | asking id counts there _ _ | back id counts there _ _ _ =>
    have due := forward.tethered.refreshAt_le there rfl counts o.lasts.held
    omega
  | lapsed _ _ _ _ _ _ _ _ due => omega

/-- Another task than that of the timer goes on or ends, before the token is due. -/
theorem left_over (o : Outlasts cfg since h now s l) (forward : Forward cfg now s)
    (early : now < h.refreshAt) {t : Nat} (other : s.timer.map Timer.id ≠ some t)
    (lasts : Lasts h l.ended.length now s') (timer : s'.timer = s.timer)
    (tasks : ∀ t', t ≠ t' → s'.tasks.get? t' = s.tasks.get? t') :
    Outlasts cfg since h now s' l := by
  obtain ⟨id, armed, sleeps, on_time, level, alive⟩ := o.asleep_of_early forward early
  have ne : t ≠ id := by
    rintro rfl
    exact other (by rw [armed]; rfl)
  exact ⟨o.later, lasts, o.schedule, .asleep id (timer.trans armed) ((tasks id ne).trans sleeps)
    on_time level alive (.inl early)⟩

/-- Another task than that of the timer ends. -/
theorem ends_aside (o : Outlasts cfg since h now s l) {t : Nat} {task : Task}
    (there : s.tasks.get? t = some task) (other : s.timer.map Timer.id ≠ some t)
    (lasts : Lasts h l.ended.length now s') (timer : s'.timer = s.timer)
    (keyed : s'.keyed = s.keyed) (tasks : s'.tasks = s.tasks.erase t) :
    Outlasts cfg since h now s' l := by
  refine ⟨o.later, lasts, o.schedule, o.stage.frame timer (fun id own => ?_)
    (fun id own alone => ?_) fun id own alone asking => by rw [keyed]; exact asking⟩
  · rw [tasks, Table.get?_erase_of_ne (own.ne there other)]
  · refine ⟨fun t' task there => ?_, by rw [keyed]; exact alone.sole⟩
    rw [tasks] at there
    rw [keyed]
    exact alone.only t' task (Table.get?_of_get?_erase there).2

/-- A refresh that counts has failed, and not because of the configuration. -/
theorem back_of_returned (o : Outlasts cfg since h now s l) {t round : Nat}
    {outcome : Outcome (Resource Token)} (returns : s.Returns t round outcome)
    (counts : s.timer.map Timer.id = some t) :
    ∃ e, outcome = .error e ∧ e.isConfiguration = false ∧
      Alone cfg (max since h.refreshAt) t now s ∧ l.Fetched now := by
  rcases o.stage.of_timer counts returns.returned with ⟨⟨⟩, -⟩ | ⟨⟨⟩, -⟩ | ⟨_, e, same, rest⟩
  obtain ⟨-, rfl⟩ := by simpa using same
  exact ⟨e, rfl, rest⟩

/-- The timer of the cache fires when the next attempt is due. -/
theorem fires (o : Outlasts cfg since h env.now s l) (forward : Forward cfg env.now s)
    {t firesAt : Nat} (sleeping : s.tasks.get? t = some (.sleeping firesAt))
    (ticked : Instant.tick firesAt ≤ env.now) :
    Outlasts cfg since h env.now { s with tasks := s.tasks.insert t .requesting }
      (l.after ⟨env, s, .fire t, [.refreshing t],
        { s with tasks := s.tasks.insert t .requesting }⟩) := by
  by_cases counts : s.timer.map Timer.id = some t
  · rcases o.stage.of_timer counts sleeping with
      ⟨same, armed, on_time, level, alive, room⟩ | ⟨⟨⟩, -⟩ | ⟨_, _, ⟨⟩, -⟩
    obtain rfl : firesAt = l.due cfg h := by simpa using same
    have later := o.later
    have ticks := Instant.le_tick (l.due cfg h)
    obtain ⟨held, hheld, due⟩ := forward.tethered.due _ armed
    obtain rfl := Option.some.inj (o.lasts.held.symm.trans hheld)
    dsimp only at due
    have alone := room.resolve_left (by omega)
    have begun : l.after ⟨env, s, .fire t, [.refreshing t],
        { s with tasks := s.tasks.insert t .requesting }⟩ =
        { l with begun := l.begun ++ [env.now] } := by
      simp [Attempts.after, begins, armed, failure?, Note.isMiss, Note.took?]
    rw [begun]
    refine ⟨o.later, { o.lasts with }, o.schedule.begins level alive (by omega),
      .asking t counts (Table.get?_insert_self _ _ _) ⟨fun t' task ht => ?_, alone.sole⟩
        (.looking (fun n awaits => ?_) (level.begin env.now))⟩
    · rcases Table.get?_of_get?_insert ht with ⟨rfl, -⟩ | ⟨-, before⟩
      · exact .inl rfl
      · exact alone.only t' task before
    · have requests := mayRequest_refresh.1 (forward.orderly.atWork _ _ awaits)
      cases sleeping.symm.trans requests
  · have silent : l.after ⟨env, s, .fire t, [.refreshing t],
        { s with tasks := s.tasks.insert t .requesting }⟩ = l :=
      l.after_silent (by simpa [begins] using counts) rfl rfl rfl
    rw [silent]
    rcases Nat.lt_or_ge env.now h.refreshAt with early | due
    · exact o.left_over forward early counts { o.lasts with } rfl fun t' ne =>
        Table.get?_insert_of_ne ne
    · -- A task that is leaving does not fire.
      obtain ⟨id, own, alone⟩ := o.alone due
      have leaving : env.now < Instant.tick firesAt :=
        (alone.only t _ sleeping).resolve_left (own.ne sleeping counts)
      omega

/-- The last attempt has failed. -/
theorem gives_up (o : Outlasts cfg since h env.now s l) (forward : Forward cfg env.now s)
    {t round : Nat} {error : ResourceError} (returns : s.Returns t round (.error error))
    (counts : s.timer.map Timer.id = some t)
    (final : error.isConfiguration = true ∨ s.usable? env.now = none) :
    Outlasts cfg since h env.now ((s.noteFailure error).retire t)
      (l.after ⟨env, s, .act (.refresh t),
        [.refreshFailed (s.noteFailure error).failures error none],
        (s.noteFailure error).retire t⟩) := by
  obtain ⟨_, same, temporary, alone, fetched⟩ := o.back_of_returned returns counts
  obtain rfl := Except.error.inj same
  have expired : h.token.expiresAt ≤ env.now := by
    rcases final with configuration | unusable
    · cases temporary.symm.trans configuration
    · exact usable?_eq_none_iff.1 unusable h o.lasts.held
  rw [l.after_failed returns counts rfl rfl]
  refine ⟨o.later, ?_, o.schedule.fail fetched o.later,
    .lapsed t rfl (Table.get?_erase_self _ _) ⟨fun t' task there => ?_, alone.sole⟩ fetched.level
      List.getLast?_concat expired (Nat.le_refl _)
      (forward.tethered.refreshAt_le returns.returned rfl counts o.lasts.held)⟩
  · rw [List.length_append]
    exact o.lasts.fails error rfl rfl rfl rfl rfl
  · exact alone.only t' task (Table.get?_of_get?_erase there).2

/-- An attempt has failed, and the timer of the next one is armed. -/
theorem retries (o : Outlasts cfg since h env.now s l) (forward : Forward cfg env.now s)
    {t round delay : Nat} {error : ResourceError} {held : Held}
    (returns : s.Returns t round (.error error)) (counts : s.timer.map Timer.id = some t)
    (usable : s.usable? env.now = some held)
    (hdelay : delay = cfg.backoff.delay (s.noteFailure error).failures) :
    Outlasts cfg since h env.now
      (((s.noteFailure error).arm env.now (Instant.after env.now delay)).1.retire t)
      (l.after ⟨env, s, .act (.refresh t),
        .refreshFailed (s.noteFailure error).failures error (some delay) ::
          ((s.noteFailure error).arm env.now (Instant.after env.now delay)).2,
        ((s.noteFailure error).arm env.now (Instant.after env.now delay)).1.retire t⟩) := by
  obtain ⟨_, same, temporary, alone, fetched⟩ := o.back_of_returned returns counts
  obtain rfl := Except.error.inj same
  obtain ⟨hheld, living⟩ := usable?_eq_some_iff.1 usable
  obtain rfl := Option.some.inj (o.lasts.held.symm.trans hheld)
  have idle : s.keyed.callers.get? (.refresh t) = none := by
    refine forward.orderly.not_at_work fun requests => ?_
    cases (mayRequest_refresh.1 requests).symm.trans returns.returned
  have count : Lasts h (l.ended.length + 1) env.now (s.noteFailure error) :=
    o.lasts.fails error rfl rfl rfl rfl rfl
  have due : Instant.after env.now delay =
      ({ l with ended := l.ended ++ [env.now] } : Attempts).due cfg h := by
    simp only [Attempts.due, List.getLast?_concat, List.length_append, List.length_singleton]
    rw [hdelay, count.failures, Backoff.delay_min]
  rcases arm_cases (s.noteFailure error) env.now (Instant.after env.now delay) with
    ⟨-, eq⟩ | ⟨off, -⟩
  · rw [eq, l.after_failed returns counts rfl rfl]
    have waits := Instant.le_after env.now delay
    have ticks := Instant.le_tick (Instant.after env.now delay)
    refine ⟨o.later, ?_, o.schedule.fail fetched o.later, .asleep s.nextTimer ?_ ?_ ?_
      fetched.level ?_ ?_⟩
    · rw [List.length_append]
      exact { count with }
    · rw [← due]
      rfl
    · rw [← due]
      have new : t ≠ s.nextTimer := Nat.ne_of_lt (forward.tethered.numbered t _ returns.returned)
      exact (Table.get?_erase_of_ne new).trans (Table.get?_insert_self _ _ _)
    · rw [← due]
      omega
    · intro c hc
      rw [List.getLast?_concat] at hc
      obtain rfl := Option.some.inj hc
      exact living
    · refine .inr ⟨fun t' task ht => ?_, alone.sole.other idle _⟩
      obtain ⟨other, before⟩ := Table.get?_of_get?_erase ht
      rcases Table.get?_of_get?_insert before with ⟨same, -⟩ | ⟨-, there⟩
      · exact .inl same.symm
      · exact .inr ((alone.only t' task there).resolve_left (Ne.symm other))
  · cases o.lasts.enabled.symm.trans off

/-- Before the token is due the source is not called, and no fetch ends. -/
theorem keyed_silent (o : Outlasts cfg since h env.now s l) (forward : Forward cfg env.now s)
    (kept : Kept cfg env.now s.keyed) (early : env.now < h.refreshAt)
    {ke : Cache.Event Agent ParameterSet Token} {k : Cache.State Agent ParameterSet Token}
    {known : List (Cache.Note Agent ParameterSet Token)}
    (t : Cache.Transition ParameterSet.text env s.keyed (arriving cfg env.now ke) env' k known) :
    l.after ⟨env, s, .keyed ke, known.map .keyed, s'⟩ = l := by
  obtain ⟨r, stored, hvalidity⟩ := kept.held forward o.lasts.held early
  have valid : (r.validity.check env).1 = true := by
    rw [hvalidity, Validity.check_expiresAt]
    exact early
  obtain ⟨uncalled, untaken⟩ := t.idles forward.coherent stored valid forward.keys
  refine l.after_silent rfl ?_ ?_ rfl
  · refine List.filter_eq_nil_iff.2 fun note hm missed => ?_
    obtain ⟨note, hnote, rfl⟩ := List.mem_map.1 hm
    cases note with
    | missed key n => cases List.filterMap_eq_nil_iff.1 uncalled _ hnote
    | hit _ _ | joined _ _ _ | finished _ _ _ _ | answered _ _ _ _ => cases missed
  · rw [List.filterMap_map]
    exact untaken

/-- The refresh takes a step at the keyed cache, and is not answered yet. -/
theorem keyed (o : Outlasts cfg since h env.now s l) (forward : Forward cfg env.now s)
    (kept : Kept cfg env.now s.keyed) {ke : Cache.Event Agent ParameterSet Token}
    {k : Cache.State Agent ParameterSet Token}
    {known : List (Cache.Note Agent ParameterSet Token)} (permits : s.Permits cfg ke)
    (t : Cache.Transition ParameterSet.text env s.keyed (arriving cfg env.now ke) env' k known)
    (quiet : ∀ a key round o, .answered a key round o ∉ known) {expiry : Nat}
    (outage : Outage cfg expiry env s (.keyed ke)) :
    Outlasts cfg since h env.now { s with keyed := k }
      (l.after ⟨env, s, .keyed ke, known.map .keyed, { s with keyed := k }⟩) := by
  rcases Nat.lt_or_ge env.now h.refreshAt with early | due
  · obtain ⟨id, armed, sleeps, on_time, level, alive⟩ := o.asleep_of_early forward early
    rw [o.keyed_silent forward kept early t]
    exact ⟨o.later, { o.lasts with }, o.schedule,
      .asleep id armed sleeps on_time level alive (.inl early)⟩
  have late := Nat.max_le.2 ⟨o.later, due⟩
  have loud : ∀ {id}, Alone cfg (max since h.refreshAt) id env.now s →
      s.mayRequest (.refresh id) = true := by
    intro id alone
    by_contra unasked
    obtain ⟨_, _, _, _, told⟩ := alone.others_settle forward o.lasts late permits t unasked
    exact quiet _ _ _ _ told
  cases o.stage with
  | asleep id _ sleeps _ _ _ room =>
    have alone := room.resolve_left (Nat.not_lt.2 due)
    cases (mayRequest_refresh.1 (loud alone)).symm.trans sleeps
  | back id _ returned _ alone _ => cases (mayRequest_refresh.1 (loud alone)).symm.trans returned
  | lapsed id _ ended alone _ _ _ _ _ =>
    cases (mayRequest_refresh.1 (loud alone)).symm.trans ended
  | asking id counts requests alone asking =>
    obtain ⟨stride, sole⟩ := alone.stride forward o.lasts late permits t
    replace sole := sole.resolve_right (by rintro ⟨_, _, rfl⟩; exact quiet _ _ _ _ (.head _))
    replace alone : Alone cfg (max since h.refreshAt) id env.now { s with keyed := k } :=
      ⟨fun t' task there => (alone.only t' task there).imp_right fun leaving =>
        leaving.stays forward permits t (quiet _), sole⟩
    generalize harriving : arriving cfg env.now ke = arrived at stride
    cases stride with
    | defers free undecided =>
      obtain rfl := of_arriving harriving (by simp)
      cases asking with
      | fetching awaits _ _ _ _ | fetched awaits _ _ _ => cases free.symm.trans awaits
      | looking _ way =>
        rw [l.after_silent rfl rfl rfl rfl]
        refine ⟨o.later, { o.lasts with }, o.schedule,
          .asking id counts requests alone (.looking (fun n awaits => ?_) way)⟩
        cases undecided.symm.trans awaits
    | starts undecided awaits running =>
      obtain rfl := of_arriving harriving (by simp)
      cases asking with
      | fetching awaits' _ _ _ _ | fetched awaits' _ _ _ => cases undecided.symm.trans awaits'
      | looking _ way =>
        rw [l.after_called]
        exact ⟨o.later, { o.lasts with }, o.schedule.call way, .asking id counts requests alone
          (.fetching awaits running rfl (Nat.le_refl _) (way.call _))⟩
    | @ends n round ending awaits hround unfinished same ended =>
      cases asking with
      | looking idle _ => exact absurd awaits (idle n)
      | fetched awaits' failed _ _ =>
        obtain rfl : n = _ := by simpa using awaits.symm.trans awaits'
        simp [Cache.State.outcome?, hround, unfinished] at failed
      | fetching awaits' hround' _ begun way =>
        obtain rfl : n = _ := by simpa using awaits.symm.trans awaits'
        obtain rfl := Option.some.inj (hround.symm.trans hround')
        obtain ⟨error, failed, temporary⟩ := outage.failed harriving
        rw [l.after_took]
        refine ⟨o.later, { o.lasts with }, o.schedule.take _, .asking id counts requests alone
          (.fetched (same ▸ awaits) ?_ temporary ?_)⟩
        · simp [Cache.State.outcome?, ended, failed]
        · have fetched := way.fetched (env.now - round.startedAt)
          rwa [Nat.add_sub_cancel' begun] at fetched
    | settles _ _ _ | others _ _ _ => exact absurd (.head _) (quiet _ _ _ _)

/-- The refresh of the timer is answered, and asks for the lock. -/
theorem returned (o : Outlasts cfg since h env.now s l) (forward : Forward cfg env.now s)
    {ke : Cache.Event Agent ParameterSet Token} {k : Cache.State Agent ParameterSet Token}
    {known : List (Cache.Note Agent ParameterSet Token)} (permits : s.Permits cfg ke)
    (t : Cache.Transition ParameterSet.text env s.keyed (arriving cfg env.now ke) env' k known)
    {id round : Nat} {key : ParameterSet} {outcome : Outcome (Resource Token)}
    (ha : .answered (.refresh id) key round outcome ∈ known)
    (counts : s.timer.map Timer.id = some id) (lasts : Lasts h l.ended.length env.now s')
    (timer : s'.timer = s.timer) (keyed : s'.keyed = k)
    (tasks : s'.tasks = s.tasks.insert id (.returned round outcome)) :
    Outlasts cfg since h env.now s' (l.after ⟨env, s, .keyed ke, known.map .keyed, s'⟩) := by
  have requesting := mayRequest_refresh.1 (forward.orderly.answered permits t ha)
  rcases o.stage.of_timer counts requesting with ⟨⟨⟩, -⟩ | ⟨-, alone, asking⟩ | ⟨_, _, ⟨⟩, -⟩
  have late := Nat.max_le.2
    ⟨o.later, forward.tethered.refreshAt_le requesting rfl counts o.lasts.held⟩
  obtain ⟨stride, sole⟩ := alone.stride forward o.lasts late permits t
  generalize harriving : arriving cfg env.now ke = arrived at stride
  cases stride with
  | defers _ _ => cases ha
  | starts _ _ _ | ends _ _ _ _ _ => simp at ha
  | others other _ _ =>
    obtain ⟨rfl, -⟩ := by simpa using ha
    exact absurd rfl other
  | settles awaits ended gone =>
    obtain ⟨rfl, rfl, rfl⟩ := by simpa using ha
    cases asking with
    | looking idle _ => exact absurd awaits (idle _)
    | fetching awaits' hround unfinished _ _ =>
      obtain rfl : round = _ := by simpa using awaits.symm.trans awaits'
      simp [Cache.State.outcome?, hround, unfinished] at ended
    | fetched awaits' failed temporary fetched =>
      obtain rfl : round = _ := by simpa using awaits.symm.trans awaits'
      obtain rfl := Option.some.inj (ended.symm.trans failed)
      rw [l.after_silent rfl rfl rfl rfl]
      refine ⟨o.later, lasts, o.schedule, .back id (by rw [timer]; exact counts)
        (by rw [tasks]; exact Table.get?_insert_self _ _ _) temporary
        ⟨alone.only_of_answered forward permits t keyed tasks, ?_⟩ fetched⟩
      rw [keyed]
      exact sole.resolve_right (by simp)

/-- Another refresh is answered. -/
theorem answered_aside (o : Outlasts cfg since h env.now s l) (forward : Forward cfg env.now s)
    (kept : Kept cfg env.now s.keyed) {ke : Cache.Event Agent ParameterSet Token}
    {k : Cache.State Agent ParameterSet Token}
    {known : List (Cache.Note Agent ParameterSet Token)} (permits : s.Permits cfg ke)
    (t : Cache.Transition ParameterSet.text env s.keyed (arriving cfg env.now ke) env' k known)
    {t' round : Nat} {key : ParameterSet} {outcome : Outcome (Resource Token)}
    (ha : .answered (.refresh t') key round outcome ∈ known)
    (other : s.timer.map Timer.id ≠ some t') (lasts : Lasts h l.ended.length env.now s')
    (timer : s'.timer = s.timer) (keyed : s'.keyed = k)
    (tasks : s'.tasks = s.tasks.insert t' (.returned round outcome)) :
    Outlasts cfg since h env.now s' (l.after ⟨env, s, .keyed ke, known.map .keyed, s'⟩) := by
  rcases Nat.lt_or_ge env.now h.refreshAt with early | due
  · rw [o.keyed_silent forward kept early t]
    exact o.left_over forward early other lasts timer fun id ne => by
      rw [tasks, Table.get?_insert_of_ne ne]
  have late := Nat.max_le.2 ⟨o.later, due⟩
  have requesting := mayRequest_refresh.1 (forward.orderly.answered permits t ha)
  have settles : ∀ {id}, s.Owns id → Alone cfg (max since h.refreshAt) id env.now s → _ :=
    fun own alone => alone.answered forward o.lasts late permits t ha (own.ne requesting other)
      keyed tasks
  obtain ⟨id, own, alone⟩ := o.alone due
  obtain ⟨rfl, -⟩ := settles own alone
  rw [l.after_silent rfl rfl rfl rfl]
  refine ⟨o.later, lasts, o.schedule, o.stage.frame timer (fun id own => ?_)
    (fun id own alone => ?_) fun id own alone asking => ?_⟩
  · rw [tasks, Table.get?_insert_of_ne (own.ne requesting other)]
  · exact (settles own alone).2.2.2
  · obtain ⟨-, same, rounds, -⟩ := settles own alone
    rw [keyed]
    exact asking.of_eq same rounds

/-- While callers are there the timer is armed. -/
theorem armed (o : Outlasts cfg since h now s l) {stage : CallerStage}
    (there : s.callers.get? n = some stage) : s.timer ≠ none := by
  intro off
  cases o.stage with
  | asleep id armed _ _ _ _ _ => cases armed.symm.trans off
  | asking id counts _ _ _ | back id counts _ _ _ _ =>
    rw [off] at counts
    cases counts
  | lapsed _ _ _ _ _ _ late past _ =>
    have alive := (o.lasts.callers n _ there).2
    omega

/-- No move leads out of the outage. -/
theorem step (o : Outlasts cfg since h env.now s l) (forward : Forward cfg env.now s)
    (kept : Kept cfg env.now s.keyed) (t : Transition cfg env s e env' s' notes)
    (outage : Outage cfg h.token.expiresAt env s e) :
    Outlasts cfg since h env.now s' (l.after ⟨env, s, e, notes, s'⟩) := by
  have lasts := o.lasts
  have erased : ∀ {n m stage}, (s.callers.erase n).get? m = some stage →
      s.callers.get? m = some stage := fun there => (Table.get?_of_get?_erase there).2
  cases t with
  | @enter n wish _ _ =>
    obtain ⟨unstopped, early⟩ := outage
    rw [l.after_silent rfl rfl rfl rfl]
    refine o.aside ?_ ?_ ?_ ?_ <;> rw [lock_eq]
    refine { lasts with callers := fun m stage there => ?_ }
    rcases Table.get?_of_get?_insert there with ⟨-, rfl⟩ | ⟨-, before⟩
    · refine ⟨?_, early⟩
      cases wish with
      | get => exact .inl rfl
      | start => exact .inr rfl
      | stop => exact absurd rfl unstopped
    · exact lasts.callers m stage before
  | serve _ _ =>
    rw [l.after_silent rfl rfl rfl rfl]
    exact o.aside (lasts.stays rfl rfl rfl rfl fun _ _ => erased) rfl rfl rfl
  | keep acts _ =>
    rw [l.after_silent rfl rfl rfl rfl]
    exact o.aside (lasts.stays rfl lasts.enabled.symm rfl rfl fun _ _ => erased) rfl rfl rfl
  | @cancel n stage there =>
    have left : s.keyed.leave (.caller n) = s.keyed :=
      Cache.State.leave_eq_self (forward.orderly.not_at_work fun requests => by
        obtain ⟨_, same, -⟩ := lasts.requests requests
        cases same)
    rw [l.after_silent rfl rfl rfl rfl]
    refine o.aside (lasts.stays ?_ ?_ ?_ ?_ fun _ _ => ?_) ?_ ?_ ?_ <;> rw [cancel_eq]
    · exact erased
    · exact left
  | addHandle _ =>
    rw [l.after_silent rfl rfl rfl rfl]
    exact o.aside { lasts with handles := Nat.succ_pos _ } rfl rfl rfl
  | dropHandle _ =>
    have another : 1 < s.handles := outage
    rw [l.after_silent rfl rfl rfl rfl]
    exact o.aside { lasts with handles := by dsimp only; omega } rfl rfl rfl
  | fetch acts unusable =>
    have expired := usable?_eq_none_iff.1 unusable h lasts.held
    have alive := (lasts.callers _ _ acts.queued).2
    omega
  | resume acts off _ | idle acts off _ => exact absurd off (o.armed acts.queued)
  | stop acts => rcases (lasts.callers _ _ acts.queued).1 with same | same <;> cases same
  | discard returns superseded =>
    rw [l.after_silent rfl rfl rfl (failure?_of_superseded returns superseded)]
    exact o.ends_aside returns.returned superseded { lasts with } rfl rfl rfl
  | refresh returns counts =>
    obtain ⟨_, same, -⟩ := o.back_of_returned returns counts
    cases same
  | giveUp returns counts final => exact o.gives_up forward returns counts final
  | retry returns counts _ usable hdelay => exact o.retries forward returns counts usable hdelay
  | keyed permits t quiet => exact o.keyed forward kept permits t quiet outage
  | fetched permits t ha | failed permits t ha =>
    obtain ⟨_, same, -⟩ := lasts.requests (forward.orderly.answered permits t ha)
    cases same
  | @returned _ _ _ _ id _ _ _ permits t ha =>
    rw [lock_eq]
    by_cases counts : s.timer.map Timer.id = some id
    · exact o.returned forward permits t ha counts { lasts with } rfl rfl rfl
    · exact o.answered_aside forward kept permits t ha counts { lasts with } rfl rfl rfl
  | fire sleeping _ _ => exact o.fires forward sleeping (outage _ (by rw [sleeping]; rfl))
  | quit sleeping unwanted =>
    have reachable : s.isReachable = true := isReachable_iff.2 (.inl lasts.handles)
    have other := unwanted.resolve_left (by rw [reachable]; nofun)
    rw [l.after_silent rfl rfl rfl rfl]
    exact o.ends_aside sleeping other { lasts with } rfl rfl rfl

/-- A reader that is answered is given the held token. -/
theorem answered (o : Outlasts cfg since h env.now s l) (forward : Forward cfg env.now s)
    (t : Transition cfg env s e env' s' notes) {result : Except ResourceError Token}
    (ha : .answered n result ∈ notes) : result = .ok h.token := by
  cases t with
  | serve _ usable =>
    obtain ⟨hheld, -⟩ := usable?_eq_some_iff.1 usable
    obtain rfl := Option.some.inj (o.lasts.held.symm.trans hheld)
    obtain ⟨-, rfl⟩ := by simpa using ha
    rfl
  | fetched permits t answered | failed permits t answered =>
    obtain ⟨_, same, -⟩ := o.lasts.requests (forward.orderly.answered permits t answered)
    cases same
  | fetch _ _ => split at ha <;> simp at ha
  | resume _ _ _ | refresh _ _ | retry _ _ _ _ _ => simp [mem_arm_snd, mem_install_snd] at ha
  | enter _ _ | keep _ _ | idle _ _ _ | stop _ | discard _ _ | giveUp _ _ _ | keyed _ _ _
  | returned _ _ _ | fire _ _ _ | quit _ _ | cancel _ | addHandle _ | dropHandle _ => simp at ha

/-- What is left over when a token is installed is over before the token is due. -/
theorem alone_of_rest (o : Outlasts cfg since h env.now s l) (forward : Forward cfg env.now s)
    (kept : Kept cfg env.now s.keyed) (early : env.now < h.refreshAt) {later : Nat}
    (rest : AtRest s later) (timer : s.timer.map Timer.id = some id) :
    Alone cfg (max since h.refreshAt) id later s := by
  have nobody := rest.nobody forward.inLine o.lasts.idle
  have unasked : ∀ a, s.mayRequest a ≠ true := by
    intro a requests
    obtain ⟨key, round, awaits, unfinished⟩ := isWaiting_iff.1 (rest.fetches a requests)
    exact kept.not_waiting forward o.lasts.held early awaits unfinished
  obtain ⟨r, stored, hvalidity⟩ := kept.held forward o.lasts.held early
  constructor
  case only =>
    intro t task there
    left
    cases task with
    | sleeping firesAt =>
      exact Option.some.inj ((rest.timers t firesAt there).1.symm.trans timer)
    | requesting => exact absurd (mayRequest_refresh.2 there) (unasked _)
    | returned round outcome => exact absurd ⟨round, outcome, there⟩ (nobody (.refresh t))
  case sole =>
    refine ⟨⟨fun n running => ?_, fun n r' stored' => ?_⟩, fun a stage working => ?_⟩
    · exact absurd running (stored.not_running forward.coherent n)
    · obtain ⟨-, rfl⟩ := stored.unique stored'
      refine .inr fun env' late => ?_
      rw [hvalidity, Bool.eq_false_iff, ne_eq, Validity.check_expiresAt]
      omega
    · exact absurd (forward.orderly.atWork a stage working) (unasked a)

/-- The clock moves only where this is provided for. -/
theorem wait (o : Outlasts cfg since h env.now s l) (forward : Forward cfg env.now s)
    (kept : Kept cfg env.now s.keyed) (punctual : Punctual env s env') :
    Outlasts cfg since h env'.now s l := by
  obtain ⟨hle, moves⟩ := punctual
  rcases Nat.eq_or_lt_of_le hle with same | passes
  · rw [← same]
    exact o
  have rest := moves passes
  have nobody := rest.nobody forward.inLine o.lasts.idle
  refine ⟨Nat.le_trans o.later hle, ?_, o.schedule, ?_⟩
  · refine { o.lasts with callers := fun n stage there => ?_ }
    exact absurd ⟨stage, there⟩ (nobody (.caller n))
  cases o.stage with
  | asleep id armed sleeps _ level alive room =>
    refine .asleep id armed sleeps ?_ level alive (.inr ?_)
    · have ticks := (rest.timers id _ sleeps).2
      omega
    · rcases room with early | alone
      · exact o.alone_of_rest forward kept early rest (by rw [armed]; rfl)
      · exact alone.rest rest nobody (by rw [armed]; simp)
  | asking id counts requests alone asking =>
    refine .asking id counts requests (alone.rest rest nobody (by rw [counts]; simp)) ?_
    obtain ⟨key, round, awaits, unfinished⟩ :=
      isWaiting_iff.1 (rest.fetches _ (mayRequest_refresh.2 requests))
    obtain rfl : key = cfg.parameters := forward.keys _ _ awaits
    cases asking with
    | looking idle _ => exact absurd awaits (idle round)
    | fetching awaits' hround running begun way =>
      exact .fetching awaits' hround running (Nat.le_trans begun hle) way
    | fetched awaits' failed _ _ =>
      obtain rfl : round = _ := by simpa using awaits.symm.trans awaits'
      cases unfinished.symm.trans failed
  | back id _ returned _ _ _ => exact absurd ⟨_, _, returned⟩ (nobody (.refresh id))
  | lapsed id off ended alone level last late past due =>
    exact .lapsed id off ended (alone.rest rest nobody (by rw [off]; nofun)) level last late
      (by omega) (by omega)

end Outlasts

end Outlasts
end TokenCache
end SingleFlight
