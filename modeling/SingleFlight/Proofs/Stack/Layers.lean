import SingleFlight.Proofs.Stack.Poll

/-!
The caches of a stack agree with each other.

A cache that fetches from another one leaves it nothing to decide.  Each of its rounds is a caller
of the cache below, which starts a round of its own for it, under the same number, and ends it with
the same outcome.  So every cache of the stack is a `Shadow` of the outermost: it has the same
entries and the same rounds, and its callers are the rounds that run.  It follows that a poll comes
to the same at every height, as if there were one cache over the source: `Fits.poll`.
-/

namespace SingleFlight
namespace Stack

variable {σ κ α : Type} [DecidableEq κ]

/-- The inner cache has the rounds and the entries of the outer one, whose running rounds are its
callers. -/
structure Shadow (inner outer : Cache.State Caller κ α) : Prop where
  entries : inner.entries = outer.entries
  started : inner.started = outer.started
  rounds : inner.rounds = outer.rounds
  callers : ∀ c stage, inner.callers.get? c = some stage ↔
    ∃ key n, c = .round n ∧ stage = .awaiting key n ∧ outer.Running key n

/-- The cache at the height is in the state of the single one, and those below are its shadows. -/
structure Fits (s : State σ κ α) (height : Nat) (x : Single σ κ α) : Prop where
  shows : s.Shows height x
  sound : x.Sound
  below : ∀ k, k < height → ∃ inner, s.layers[k]? = some inner ∧ Shadow inner x.cache

namespace Shadow

variable {a inner outer : Cache.State Caller κ α} {c : Caller} {key : κ} {n : Nat}

omit [DecidableEq κ] in
theorem running_iff (h : Shadow inner outer) (key : κ) (n : Nat) :
    inner.Running key n ↔ outer.Running key n := by
  unfold Cache.State.Running
  rw [h.rounds]

omit [DecidableEq κ] in
theorem awaiting (h : Shadow inner outer) (running : outer.Running key n) :
    inner.callers.get? (.round n) = some (.awaiting key n) :=
  (h.callers _ _).2 ⟨key, n, rfl, rfl, running⟩

omit [DecidableEq κ] in
/-- A shadow of a shadow is a shadow. -/
theorem trans (h : Shadow a inner) (h' : Shadow inner outer) : Shadow a outer :=
  ⟨h.entries.trans h'.entries, h.started.trans h'.started, h.rounds.trans h'.rounds,
    fun c stage => by simpa only [h'.running_iff] using h.callers c stage⟩

omit [DecidableEq κ] in
/-- Shadows of one cache are shadows of each other. -/
theorem beside (h : Shadow a outer) (h' : Shadow inner outer) : Shadow a inner :=
  ⟨h.entries.trans h'.entries.symm, h.started.trans h'.started.symm,
    h.rounds.trans h'.rounds.symm,
    fun c stage => by simpa only [h'.running_iff] using h.callers c stage⟩

omit [DecidableEq κ] in
/-- Callers of the outer cache come and go unnoticed. -/
theorem of_same (h : Shadow inner outer) {outer' : Cache.State Caller κ α}
    (entries : outer'.entries = outer.entries) (started : outer'.started = outer.started)
    (rounds : outer'.rounds = outer.rounds) : Shadow inner outer' := by
  refine ⟨h.entries.trans entries.symm, h.started.trans started.symm,
    h.rounds.trans rounds.symm, fun c stage => ?_⟩
  simpa only [Cache.State.Running, rounds] using h.callers c stage

theorem calm (h : Shadow inner outer) (calm : Cache.Calm outer) : Cache.Calm inner := by
  have coherent := calm.coherent
  refine ⟨⟨?_, ?_, ?_, ?_, ?_⟩, ?_, ?_⟩
  · simpa only [h.rounds, h.started] using coherent.numbered
  · simpa only [h.entries, h.running_iff] using coherent.running
  · simpa only [h.entries, Cache.State.Known, h.rounds] using coherent.inFlight
  · simpa only [h.entries, h.rounds] using coherent.ready
  · intro c key n awaits
    obtain ⟨key', n', -, hstage, r, hr, hkey, -⟩ := (h.callers c _).1 awaits
    obtain ⟨rfl, rfl⟩ : key = key' ∧ n = n' := by simpa using hstage
    exact ⟨r, by rw [h.rounds, hr], hkey⟩
  · simpa only [h.entries, Cache.State.isRunning, h.rounds] using calm.settled
  · simpa only [h.entries] using calm.steady

theorem sound {x : Single σ κ α} (h : Shadow inner x.cache) (sound : x.Sound) :
    Single.Sound { x with cache := inner } :=
  ⟨h.calm sound.calm, by simpa only [Cache.State.isRunning, h.rounds] using sound.fetching⟩

omit [DecidableEq κ] in
/-- What is known of one round does not count for the callers that are other rounds. -/
theorem callers_store {r : Cache.Round κ α} {stage : Cache.Stage κ} (other : Caller.round n ≠ c) :
    (∃ key m, c = .round m ∧ stage = .awaiting key m ∧
      Cache.State.Running { outer with rounds := Cache.Round.store outer.rounds n r } key m) ↔
    ∃ key m, c = .round m ∧ stage = .awaiting key m ∧ outer.Running key m := by
  refine exists₂_congr fun key m => and_congr_right fun hm => and_congr_right fun _ => ?_
  have different : m ≠ n := fun same => other (by rw [hm, same])
  simp only [Cache.State.Running, Cache.Round.store_of_ne _ _ different]

/-- The two caches start rounds for the key, the inner one for the round of the outer one. -/
theorem startRound (h : Shadow inner outer) (now : Nat) (c : Caller) (key : κ) :
    Shadow (inner.startRound now (.round outer.started) key) (outer.startRound now c key) := by
  refine ⟨?_, ?_, ?_, fun c' stage => ?_⟩
  · simp only [Cache.State.startRound, h.entries, h.started]
  · simp only [Cache.State.startRound, h.started]
  · simp only [Cache.State.startRound, h.rounds, h.started]
  · simp only [Cache.State.startRound, Table.get?_insert, h.started]
    by_cases same : Caller.round outer.started = c'
    · subst same
      rw [if_pos rfl]
      constructor
      · rintro ⟨⟩
        exact ⟨key, outer.started, rfl, rfl, _, Cache.Round.store_self _ _ _, rfl, rfl⟩
      · rintro ⟨key', n, hn, rfl, r, hr, rfl, -⟩
        obtain rfl : outer.started = n := by simpa using hn
        obtain rfl : _ = r := by simpa using hr
        rfl
    · rw [if_neg same, h.callers]
      exact (callers_store same).symm

/-- The two caches end the same round and settle it. -/
theorem end_settled (h : Shadow inner outer) (running : outer.Running key n) (c : Caller)
    (o : Outcome (Resource α)) :
    Shadow ((inner.endRound n o).settled (.round n) key n o)
      ((outer.endRound n o).settled c key n o) := by
  obtain ⟨r, hr, rfl, -⟩ := running
  rw [Cache.State.endRound_eq hr, Cache.State.endRound_eq ((congrFun h.rounds n).trans hr)]
  refine ⟨?_, h.started, ?_, fun c' stage => ?_⟩
  · simp only [Cache.State.settled, h.entries]
  · simp only [Cache.State.settled, Cache.State.leave, h.rounds]
  · simp only [Cache.State.settled, Cache.State.leave, Table.get?_erase]
    by_cases same : Caller.round n = c'
    · subst same
      rw [if_pos rfl]
      refine ⟨fun there => absurd there (by simp), ?_⟩
      rintro ⟨key', m, hm, rfl, r', hr', -, unfinished⟩
      obtain rfl : n = m := by simpa using hm
      obtain rfl : _ = r' := by simpa using hr'
      cases unfinished
    · rw [if_neg same, h.callers]
      exact (callers_store same).symm

section Serve

variable {describe : κ → String} {src : Source σ κ α} {x : Single σ κ α} {height : Nat}

/-- Where a request waits after its looks, its round is a caller of the cache below that waits for
the round of the same number. -/
theorem board (h : Shadow inner x.cache) (sound : x.Sound)
    (own : ∀ stage, x.cache.callers.get? c = some stage → stage.key = key)
    {outer : Cache.State Caller κ α}
    (looked : x.board src (height + 1) c key = ({ x with cache := outer }, none))
    (awaits : outer.callers.get? c = some (.awaiting key n)) (running : outer.Running key n) :
    ∃ y : Single σ κ α, Single.board src 0 (.round n) key { x with cache := inner } = (y, none) ∧
      x.board src 0 c key = ({ y with cache := outer }, none) ∧ Shadow y.cache outer ∧
      ∀ stage, inner.callers.get? (.round n) = some stage → stage.key = key := by
  have coherent := sound.calm.coherent
  have theirs : ∀ stage, inner.callers.get? (.round n) = some stage →
      x.cache.Running stage.key n := by
    intro stage there
    obtain ⟨key', m, hm, rfl, running⟩ := (h.callers _ _).1 there
    obtain rfl : n = m := by simpa using hm
    exact running
  have same : x.cache.Known key n → ∀ stage, inner.callers.get? (.round n) = some stage →
      stage.key = key := by
    rintro ⟨r, hr, rfl⟩ stage there
    obtain ⟨r', hr', hkey, -⟩ := theirs stage there
    obtain rfl : r = r' := by simpa using hr.symm.trans hr'
    exact hkey.symm
  -- A round that is waited for is a caller of the inner cache already, unless it starts just now.
  have joined : x.cache.Running key n →
      Single.board src 0 (.round n) key { x with cache := inner } =
        ({ x with cache := inner }, none) := by
    intro running
    simp only [Single.board, Cache.State.board_of_awaiting (h.awaiting running)]
    rfl
  have boarded := x.cache.board_boarded x.env own
  simp only [Single.board] at looked ⊢
  generalize x.cache.board x.env c key = result at boarded looked ⊢
  cases boarded with
  | served _ _ => simp at looked
  | waits _ =>
    obtain rfl : x.cache = outer := by simpa using looked
    exact ⟨_, joined running, rfl, h, same running.known⟩
  | @joins m _ =>
    obtain rfl : x.cache.await c key m = outer := by simpa using looked
    obtain rfl : m = n := by simpa [Cache.State.await] using awaits
    exact ⟨_, joined running, rfl, h.of_same rfl rfl rfl, same running.known⟩
  | starts ready stale =>
    obtain rfl : x.cache.startRound x.env.now c key = outer := by simpa using looked
    obtain rfl : x.cache.started = n := by simpa [Cache.State.startRound] using awaits
    have new : ∀ stage, inner.callers.get? (.round x.cache.started) ≠ some stage := by
      intro stage there
      obtain ⟨r, hr, -⟩ := theirs stage there
      rw [coherent.rounds_started] at hr
      cases hr
    have starts : inner.board x.env (.round x.cache.started) key =
        (inner.startRound x.env.now (.round x.cache.started) key, none, true) :=
      Cache.State.board_of_idle (fun _ _ => new _) (by rwa [h.entries]) (by rwa [h.entries])
    rw [starts]
    refine ⟨_, rfl, ?_, h.startRound x.env.now c key, fun stage there => absurd there (new stage)⟩
    simp only [Single.call, h.started]
    rfl

variable (describe) in
/-- And it goes on as that caller does. -/
theorem arrive {y : Single σ κ α} (h : Shadow y.cache outer)
    (sound : Single.Sound { y with cache := outer })
    (running : outer.Running key n) (awaits : outer.callers.get? c = some (.awaiting key n)) :
    (∃ due, y.arrive describe (.round n) = (y, .waiting due) ∧
      Single.arrive describe c { y with cache := outer } =
        ({ y with cache := outer }, .waiting due)) ∨
    ∃ o, (y.arrive describe (.round n)).2 = .answered o ∧
      Single.arrive describe c { y with cache := outer } =
        ({ (y.arrive describe (.round n)).1 with
            cache := (outer.endRound n o).settled c key n o }, .answered o) ∧
      Shadow (y.arrive describe (.round n)).1.cache ((outer.endRound n o).settled c key n o) := by
  have unfinished := Cache.State.outcome?_of_isRunning running.isRunning
  have unfinished' : y.cache.outcome? n = none := by
    rw [Cache.State.outcome?, h.rounds]
    exact unfinished
  obtain ⟨fetch, called, -, -⟩ := sound.fetching n running.isRunning
  replace called : y.fetches.get? n = some fetch := called
  simp only [Single.arrive, awaits, h.awaiting running, unfinished, unfinished', called]
  split
  · exact .inr ⟨_, rfl, rfl, h.end_settled running c _⟩
  · exact .inl ⟨_, rfl, rfl⟩

end Serve

end Shadow

/-! ## Polls -/

section Polls

variable {describe : κ → String} {src : Source σ κ α} {x : Single σ κ α} {c : Caller} {key : κ}
  {n height : Nat} {o : Outcome (Resource α)} {outer : Cache.State Caller κ α}

omit [DecidableEq κ] in
theorem outcome_returned (parameters : String) (o : Outcome (Resource α)) :
    (Ending.returned (o.mapError Failure.ofResourceError)).outcome parameters = o := by
  cases o <;> rfl

/-- What the looks of a request above the source come to.  Only where the request waits for a round
that runs are the caches below asked. -/
inductive Aboard (src : Source σ κ α) (x : Single σ κ α) (c : Caller) (key : κ) :
    Cache.State Caller κ α → Option (Outcome (Resource α)) → Prop where
  | told {o : Outcome (Resource α)} :
      x.board src 0 c key = ({ x with cache := x.cache.leave c }, some o) →
      Aboard src x c key (x.cache.leave c) (some o)
  | ended {n : Nat} {o : Outcome (Resource α)} : x.board src 0 c key = (x, none) →
      x.cache.callers.get? c = some (.awaiting key n) → x.cache.outcome? n = some o →
      Aboard src x c key x.cache none
  | runs {outer : Cache.State Caller κ α} {n : Nat} :
      outer.callers.get? c = some (.awaiting key n) → outer.Running key n →
      Aboard src x c key outer none

variable (src height) in
theorem Single.Sound.aboard (h : x.Sound)
    (own : ∀ stage, x.cache.callers.get? c = some stage → stage.key = key) :
    ∃ outer told, x.board src (height + 1) c key = ({ x with cache := outer }, told) ∧
      Aboard src x c key outer told := by
  have above : x.board src (height + 1) c key =
      ({ x with cache := (x.cache.board x.env c key).1 }, (x.cache.board x.env c key).2.1) := by
    simp [Single.board]
  refine ⟨_, _, above, ?_⟩
  have boarded := x.cache.board_boarded x.env own
  generalize hb : x.cache.board x.env c key = result at boarded
  cases boarded with
  | served _ _ =>
    refine .told ?_
    simp only [Single.board, hb]
    rfl
  | waits awaits =>
    have known := h.calm.coherent.awaited _ _ _ awaits
    rcases known.running_or_ended with running | ⟨-, o, ended⟩
    · exact .runs awaits (known.running running)
    · refine .ended ?_ awaits ended
      simp only [Single.board, hb]
      rfl
  | joins entry =>
    have known := h.calm.coherent.inFlight _ _ entry
    exact .runs (Table.get?_insert_self _ _ _) (known.running (h.calm.settled _ _ entry))
  | starts _ _ =>
    exact .runs (Table.get?_insert_self _ _ _) ⟨_, Cache.Round.store_self _ _ _, rfl, rfl⟩

/-- What a step did at the height leaves the caches below as they were. -/
theorem Fits.above {s s' : State σ κ α} (fits : Fits s height x) {y : Single σ κ α}
    (alters : Alters s s' height y) (sound : y.Sound)
    (entries : y.cache.entries = x.cache.entries) (started : y.cache.started = x.cache.started)
    (rounds : y.cache.rounds = x.cache.rounds) : Fits s' height y := by
  refine ⟨alters.shows, sound, fun k hk => ?_⟩
  obtain ⟨inner, there, shadow⟩ := fits.below k hk
  exact ⟨inner, (alters.others k (Nat.ne_of_lt hk)).trans there,
    shadow.of_same entries started rounds⟩

/-- The cache below is fit for the round that a request waits for after its looks. -/
theorem Fits.beneath {s s₁ : State σ κ α} (fits : Fits s (height + 1) x)
    (alters : Alters s s₁ (height + 1) { x with cache := outer }) :
    ∃ inner, Shadow inner x.cache ∧ Fits s₁ height { x with cache := inner } := by
  obtain ⟨inner, there, shadow⟩ := fits.below height (Nat.lt_succ_self _)
  have same : ∀ k, k ≤ height → s₁.layers[k]? = s.layers[k]? :=
    fun k hk => alters.others k (Nat.ne_of_lt (Nat.lt_succ_of_le hk))
  refine ⟨inner, shadow, ⟨(same height (Nat.le_refl _)).trans there, alters.shows.env,
    alters.shows.fetches, alters.shows.memory, alters.shows.called⟩, shadow.sound fits.sound,
    fun k hk => ?_⟩
  obtain ⟨a, there', shadow'⟩ := fits.below k (Nat.lt_succ_of_lt hk)
  exact ⟨a, (same k (Nat.le_of_lt hk)).trans there', shadow'.beside shadow⟩

/-- A cache fits above one that does and is its shadow. -/
theorem Fits.atop {s : State σ κ α} {y : Single σ κ α} (fits : Fits s height y)
    (there : s.layers[height + 1]? = some outer) (shadow : Shadow y.cache outer)
    (sound : Single.Sound { y with cache := outer }) :
    Fits s (height + 1) { y with cache := outer } := by
  refine ⟨⟨there, fits.shows.env, fits.shows.fetches, fits.shows.memory, fits.shows.called⟩,
    sound, fun k hk => ?_⟩
  rcases Nat.lt_succ_iff_lt_or_eq.1 hk with lower | rfl
  · obtain ⟨a, there', shadow'⟩ := fits.below k lower
    exact ⟨a, there', shadow'.trans shadow⟩
  · exact ⟨y.cache, fits.shows.cache, shadow⟩

theorem Fits.unaffected {s s' : State σ κ α} {y : Single σ κ α} (fits : Fits s height y)
    (alters : Alters s s' (height + 1) { y with cache := outer }) : Fits s' height y := by
  have same : ∀ k, k ≤ height → s'.layers[k]? = s.layers[k]? :=
    fun k hk => alters.others k (Nat.ne_of_lt (Nat.lt_succ_of_le hk))
  refine ⟨⟨(same _ (Nat.le_refl _)).trans fits.shows.cache, alters.shows.env,
    alters.shows.fetches, alters.shows.memory, alters.shows.called⟩, fits.sound, fun k hk => ?_⟩
  rw [same k (Nat.le_of_lt hk)]
  exact fits.below k hk

/-- A poll at the height comes to what it comes to for the single cache, and does nothing above. -/
def Polls (describe : κ → String) (src : Source σ κ α) (height : Nat) (c : Caller) (key : κ)
    (s : State σ κ α) (x : Single σ κ α) : Prop :=
  ∃ s', s.poll describe src false height c key = (s', (x.serve describe src c key).2) ∧
    Fits s' height (x.serve describe src c key).1 ∧
    ∀ k, height < k → s'.layers[k]? = s.layers[k]?

/-- A poll that finds its round running goes on as a poll of the cache below does for that round. -/
theorem Fits.poll_of_runs {s s₁ : State σ κ α} {started : Bool} (fits : Fits s (height + 1) x)
    (steady : src.Steady) (unsevered : src.Unsevered)
    (own : ∀ stage, x.cache.callers.get? c = some stage → stage.key = key)
    (looked : s.looks describe src (height + 1) c key = (s₁, none, started))
    (alters : Alters s s₁ (height + 1) { x with cache := outer })
    (above : x.board src (height + 1) c key = ({ x with cache := outer }, none))
    (awaits : outer.callers.get? c = some (.awaiting key n)) (running : outer.Running key n)
    (below : ∀ {inner}, Fits s₁ height { x with cache := inner } →
      (∀ stage, inner.callers.get? (.round n) = some stage → stage.key = key) →
      Polls describe src height (.round n) key s₁ { x with cache := inner }) :
    Polls describe src (height + 1) c key s x := by
  have sound := fits.sound.serve describe steady unsevered own
  have sound₀ := fits.sound.board steady unsevered own
  have waits := (alters.shows.stage? c).trans awaits
  have unfinished := Cache.State.outcome?_of_isRunning running.isRunning
  have others : ∀ k, height + 1 < k → s₁.layers[k]? = s.layers[k]? :=
    fun k hk => alters.others k (Nat.ne_of_gt hk)
  obtain ⟨inner, shadow, fits₁⟩ := fits.beneath alters
  obtain ⟨y, low, high, shadow₁, own₁⟩ := shadow.board fits.sound own above awaits running
  obtain ⟨s₂, polled, fits₂, others₂⟩ := below fits₁ own₁
  have served : Single.serve describe src (.round n) key { x with cache := inner } =
      y.arrive describe (.round n) := by
    simp only [Single.serve, low]
  have served' : x.serve describe src c key =
      Single.arrive describe c { y with cache := outer } := by
    simp only [Single.serve, high]
  rw [high] at sound₀
  rw [served] at polled fits₂
  unfold Polls
  rw [served'] at sound ⊢
  rw [State.poll_of_below looked waits (alters.shows.unfinished unfinished), polled]
  have there : s₂.layers[height + 1]? = some outer :=
    (others₂ _ (Nat.lt_succ_self _)).trans alters.shows.cache
  rcases shadow₁.arrive describe sound₀ running awaits with
    ⟨due, early, early'⟩ | ⟨o, arrived, arrived', shadow₂⟩
  · rw [early] at fits₂ ⊢
    rw [early'] at sound ⊢
    exact ⟨s₂, rfl, fits₂.atop there shadow₁ sound₀,
      fun k hk => (others₂ k (Nat.lt_of_succ_lt hk)).trans (others k hk)⟩
  -- The answer of the inner cache is how the fetch of the outer one ends.
  · rw [arrived'] at sound ⊢
    have shows₂ : s₂.Shows (height + 1)
        { (y.arrive describe (.round n)).1 with cache := outer } :=
      ⟨there, fits₂.shows.env, fits₂.shows.fetches, fits₂.shows.memory, fits₂.shows.called⟩
    obtain ⟨s', finished, alters'⟩ :=
      shows₂.finish running awaits _ (outcome_returned (describe key) o)
    rw [arrived]
    refine ⟨s', finished, (fits₂.unaffected alters').atop alters'.shows.cache shadow₂ sound,
      fun k hk => ?_⟩
    rw [alters'.others k (Nat.ne_of_gt hk), others₂ k (Nat.lt_of_succ_lt hk), others k hk]

variable (describe) in
/-- A poll comes to the same at every height. -/
theorem Fits.poll (steady : src.Steady) (unsevered : src.Unsevered) (height : Nat)
    {s : State σ κ α} (fits : Fits s height x)
    (own : ∀ stage, x.cache.callers.get? c = some stage → stage.key = key) :
    Polls describe src height c key s x := by
  induction height generalizing s x c key with
  | zero =>
    obtain ⟨s', polled, alters⟩ := fits.shows.poll fits.sound steady unsevered own
    exact ⟨s', polled, ⟨alters.shows, fits.sound.serve describe steady unsevered own, nofun⟩,
      fun k hk => alters.others k (Nat.ne_of_gt hk)⟩
  | succ height ih =>
    obtain ⟨s₁, started, looked, alters⟩ := fits.shows.looks describe src fits.sound.calm own
    obtain ⟨outer, told, above, aboard⟩ := fits.sound.aboard src height own
    rw [above] at looked alters
    have sound := fits.sound.serve describe steady unsevered own
    cases aboard with
    | @told o alone =>
      have served : x.serve describe src c key =
          ({ x with cache := x.cache.leave c }, .answered o) := by
        simp only [Single.serve, alone]
      unfold Polls
      rw [served] at sound ⊢
      exact ⟨s₁, State.poll_of_told looked, fits.above alters sound rfl rfl rfl,
        fun k hk => alters.others k (Nat.ne_of_gt hk)⟩
    | @ended n o alone awaits ended =>
      have served : x.serve describe src c key =
          ({ x with cache := x.cache.settled c key n o }, .answered o) := by
        simp only [Single.serve, alone, Single.arrive, awaits, ended]
      unfold Polls
      rw [served, fits.sound.calm.settled_of_ended ended] at sound ⊢
      obtain ⟨s', settled, alters'⟩ := alters.shows.settle describe awaits ended
      rw [fits.sound.calm.settled_of_ended ended] at alters'
      have waits := (alters.shows.stage? c).trans awaits
      rw [State.poll_of_ended looked waits (by rw [alters.shows.cache, Option.bind_some, ended])]
      refine ⟨s', settled, fits.above (alters.trans alters') sound rfl rfl rfl, fun k hk => ?_⟩
      exact (alters.trans alters').others k (Nat.ne_of_gt hk)
    | runs awaits running =>
      exact fits.poll_of_runs steady unsevered own looked alters above awaits running ih

end Polls
end Stack
end SingleFlight
