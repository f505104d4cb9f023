import SingleFlight.Proofs.Stack.Single

/-!
Polls, height by height.

What a poll does to the cache at its height, and to the source, is what `Single.board` and
`Single.arrive` do to the single cache that is in the same state.  At the innermost cache this makes
up the whole poll (`State.Shows.poll`); above it a poll goes on with one of the cache below
(`State.poll_of_below`).
-/

namespace SingleFlight
namespace Stack

variable {σ κ α : Type} [DecidableEq κ]

/-- The cache at the height, together with the source, is in the same state as the single one. -/
structure State.Shows (s : State σ κ α) (height : Nat) (x : Single σ κ α) : Prop where
  cache : s.layers[height]? = some x.cache
  env : s.env = x.env
  fetches : s.fetches = x.fetches
  memory : s.memory = x.memory
  called : s.called = x.called

/-- What happened between the two states happened at the height only, and came to this. -/
structure Alters (s s' : State σ κ α) (height : Nat) (x : Single σ κ α) : Prop where
  shows : s'.Shows height x
  others : ∀ k, k ≠ height → s'.layers[k]? = s.layers[k]?

/-- The looks that a poll takes. -/
def State.looks (describe : κ → String) (src : Source σ κ α) (height : Nat) (c : Caller) (key : κ)
    (s : State σ κ α) : State σ κ α × Option (Outcome (Resource α)) × Bool :=
  match s.look describe height c key with
  | (s, some o) => (s, some o, false)
  | (s, none) => s.decide describe src height c key

section Steps

variable {describe : κ → String} {src : Source σ κ α} {s : State σ κ α} {height : Nat}
  {x : Single σ κ α} {c : Caller} {key : κ} {n : Nat}

omit [DecidableEq κ] in
theorem Alters.refl (h : s.Shows height x) : Alters s s height x := ⟨h, fun _ _ => rfl⟩

omit [DecidableEq κ] in
theorem Alters.trans {s₁ s₂ s₃ : State σ κ α} {y : Single σ κ α} (h : Alters s₁ s₂ height x)
    (h' : Alters s₂ s₃ height y) : Alters s₁ s₃ height y :=
  ⟨h'.shows, fun k hk => (h'.others k hk).trans (h.others k hk)⟩

omit [DecidableEq κ] in
theorem State.Shows.stage? (h : s.Shows height x) (c : Caller) :
    s.stage? height c = x.cache.callers.get? c := by
  simp only [State.stage?, h.cache, Option.bind_some]

theorem State.Shows.apply (h : s.Shows height x) {e : Cache.Event Caller κ α}
    {env : Surroundings} {cache : Cache.State Caller κ α} {notes : List (Cache.Note Caller κ α)}
    (hs : Cache.step describe x.env x.cache e = some (env, cache, notes)) :
    ∃ s', s.apply describe height e =
        (s', (notes.findSome? Cache.Note.answer?).map fun answer => answer.2.2) ∧
      Alters s s' height { x with env := env, cache := cache } := by
  have inside : height < s.layers.length := (List.getElem?_eq_some_iff.1 h.cache).1
  simp only [State.apply, h.cache, h.env, hs]
  exact ⟨_, rfl, ⟨List.getElem?_set_self inside, rfl, h.fetches, h.memory, h.called⟩,
    fun k hk => List.getElem?_set_ne (Ne.symm hk)⟩

variable (describe) in
theorem State.Shows.settle (h : s.Shows height x)
    (awaits : x.cache.callers.get? c = some (.awaiting key n)) {o : Outcome (Resource α)}
    (ended : x.cache.outcome? n = some o) :
    ∃ s', s.settle describe height c = (s', .answered o) ∧
      Alters s s' height { x with cache := x.cache.settled c key n o } := by
  have hs : Cache.step describe x.env x.cache (.settle c) =
      some (x.env, x.cache.settled c key n o, [.answered c key n o]) := by
    simp only [Cache.step, awaits, ended]
    rfl
  obtain ⟨s', applied, alters⟩ := h.apply hs
  refine ⟨s', ?_, alters⟩
  simp only [State.settle, applied]
  rfl

omit [DecidableEq κ] in
theorem State.Shows.call (h : s.Shows height x) (src : Source σ κ α) (key : κ) (n : Nat) :
    Alters s (s.callSource src key n) height (x.call src key n) := by
  refine ⟨?_, fun _ _ => rfl⟩
  simp only [State.callSource, Single.call, h.memory, h.env]
  exact ⟨h.cache, rfl, by simp only [h.fetches], rfl, by simp only [h.called]⟩

variable (describe src) in
theorem State.Shows.decide (h : s.Shows height x) (calm : Cache.Calm x.cache)
    (undecided : x.cache.callers.get? c = some (.undecided key)) :
    ∃ s' started, s.decide describe src height c key =
        (s', (x.board src height c key).2, started) ∧
      Alters s s' height (x.board src height c key).1 := by
  obtain ⟨notes, looked, answer⟩ := calm.secondLook_eq x.env undecided
  have grown := x.cache.board_started x.env c key
  unfold Single.board
  generalize x.cache.board x.env c key = result at looked answer grown
  obtain ⟨cache, told, started⟩ := result
  replace grown : cache.started = if started then x.cache.started + 1 else x.cache.started := grown
  have hs : Cache.step describe x.env x.cache (.decide c) = some (x.env, cache, notes) := by
    simp only [Cache.step, undecided, looked]
  obtain ⟨s', applied, alters⟩ := h.apply hs
  unfold State.decide
  simp only [h.stage?, undecided, applied, answer, h.cache, alters.shows.cache, Option.map_some,
    Option.getD_some, grown]
  cases started with
  | false =>
    simp only [Bool.false_eq_true, if_false, Nat.lt_irrefl, Bool.false_and]
    exact ⟨_, _, rfl, alters⟩
  | true =>
    simp only [if_true, Nat.lt_succ_self, Bool.true_and, beq_iff_eq]
    refine ⟨_, _, rfl, ?_⟩
    split
    · exact alters.trans (alters.shows.call src key _)
    · exact alters

variable (describe src) in
/-- The looks of a poll, one right after the other. -/
theorem State.Shows.looks (h : s.Shows height x) (calm : Cache.Calm x.cache)
    (own : ∀ stage, x.cache.callers.get? c = some stage → stage.key = key) :
    ∃ s' started, s.looks describe src height c key =
        (s', (x.board src height c key).2, started) ∧
      Alters s s' height (x.board src height c key).1 := by
  unfold State.looks State.look
  rw [h.stage?]
  cases hc : x.cache.callers.get? c with
  | some stage =>
    simp only
    cases stage with
    | undecided key' =>
      obtain rfl : key' = key := own _ hc
      exact h.decide describe src calm hc
    | awaiting key' n =>
      have waits : x.board src height c key = (x, none) := by
        simp only [Single.board, Cache.State.board, hc]
        rfl
      simp only [State.decide, h.stage?, hc, waits]
      exact ⟨_, _, rfl, .refl h⟩
  | none =>
    simp only
    rcases calm.firstLook_eq x.env key hc with
      ⟨notes, looked, answer, unstarted, boards⟩ | ⟨looked, ready, stale⟩
    · unfold Single.board
      generalize x.cache.board x.env c key = result at looked answer unstarted boards
      obtain ⟨cache, told, started⟩ := result
      obtain rfl : started = false := unstarted
      have hs : Cache.step describe x.env x.cache (.look c key) = some (x.env, cache, notes) := by
        simp only [Cache.step, hc, looked]
      obtain ⟨s', applied, alters⟩ := h.apply hs
      rw [applied, answer]
      cases told with
      | some o => exact ⟨s', false, rfl, alters⟩
      | none =>
        obtain ⟨n, awaits⟩ := boards rfl
        have waits : s'.decide describe src height c key = (s', none, false) := by
          simp only [State.decide, alters.shows.stage?]
          rw [awaits]
        exact ⟨s', false, waits, alters⟩
    -- The second look is taken at once, and starts a round as the first could have done.
    · have hs : Cache.step describe x.env x.cache (.look c key) = some (x.env,
          { x.cache with callers := x.cache.callers.insert c (.undecided key) }, []) := by
        simp only [Cache.step, hc, looked]
      obtain ⟨s₁, applied, alters⟩ := h.apply hs
      obtain ⟨s', started, decided, alters'⟩ :=
        alters.shows.decide describe src (calm.defer c key) (Table.get?_insert_self _ _ _)
      have same : Single.board src height c key
          { x with
            cache := { x.cache with callers := x.cache.callers.insert c (.undecided key) } } =
          x.board src height c key := by
        simp only [Single.board, Cache.State.board_deferred hc ready stale]
      rw [applied]
      rw [same] at decided alters'
      exact ⟨s', started, decided, alters.trans alters'⟩

end Steps

/-! ## Polls -/

section Polls

variable {describe : κ → String} {src : Source σ κ α} {s s₁ : State σ κ α} {height : Nat}
  {x : Single σ κ α} {c : Caller} {key key' : κ} {n : Nat} {o : Outcome (Resource α)}
  {started : Bool}

theorem State.poll_of_told (looked : s.looks describe src height c key = (s₁, some o, started)) :
    s.poll describe src false height c key = (s₁, .answered o) := by
  unfold State.looks at looked
  unfold State.poll
  generalize s.look describe height c key = result at looked ⊢
  obtain ⟨s₀, answer⟩ := result
  cases answer with
  | some o' =>
    obtain ⟨rfl, rfl, -⟩ : s₀ = s₁ ∧ o' = o ∧ false = started := by simpa using looked
    rfl
  | none =>
    dsimp only at looked ⊢
    rw [looked]

/-- Both looks have been taken where they lead to no answer. -/
theorem State.decided_of_looks (looked : s.looks describe src height c key = (s₁, none, started)) :
    ∃ s₀, s.look describe height c key = (s₀, none) ∧
      s₀.decide describe src height c key = (s₁, none, started) := by
  unfold State.looks at looked
  generalize s.look describe height c key = result at looked ⊢
  obtain ⟨s₀, answer⟩ := result
  cases answer with
  | some o' => simp at looked
  | none => exact ⟨s₀, rfl, looked⟩

theorem State.poll_of_ended (looked : s.looks describe src height c key = (s₁, none, started))
    (awaits : s₁.stage? height c = some (.awaiting key' n))
    (ended : (s₁.layers[height]?.bind fun cache => cache.outcome? n) = some o) :
    s.poll describe src false height c key = s₁.settle describe height c := by
  obtain ⟨s₀, hlook, decided⟩ := State.decided_of_looks looked
  unfold State.poll
  simp only [hlook, decided, awaits, ended]

theorem State.poll_of_due {fetch : Fetch α}
    (looked : s.looks describe src 0 c key = (s₁, none, started))
    (awaits : s₁.stage? 0 c = some (.awaiting key' n))
    (unfinished : (s₁.layers[0]?.bind fun cache => cache.outcome? n) = none)
    (called : s₁.fetches.get? n = some fetch) (unsevered : fetch.severs = false)
    (due : fetch.due ≤ s₁.env.now) :
    s.poll describe src false 0 c key =
      (State.apply describe 0 (.finish n (fetch.ending s₁.env).2)
        { s₁ with env := (fetch.ending s₁.env).1, fetches := s₁.fetches.erase n }).1.settle
          describe 0 c := by
  obtain ⟨s₀, hlook, decided⟩ := State.decided_of_looks looked
  unfold State.poll
  simp only [hlook, decided, awaits, unfinished, called, if_pos due, unsevered]
  rfl

theorem State.poll_of_early {fetch : Fetch α}
    (looked : s.looks describe src 0 c key = (s₁, none, started))
    (awaits : s₁.stage? 0 c = some (.awaiting key' n))
    (unfinished : (s₁.layers[0]?.bind fun cache => cache.outcome? n) = none)
    (called : s₁.fetches.get? n = some fetch) (early : ¬ fetch.due ≤ s₁.env.now) :
    s.poll describe src false 0 c key = (s₁, .waiting fetch.due) := by
  obtain ⟨s₀, hlook, decided⟩ := State.decided_of_looks looked
  unfold State.poll
  simp only [hlook, decided, awaits, unfinished, called, if_neg early]

/-- Above the source, a poll goes on with a poll of the cache below. -/
theorem State.poll_of_below
    (looked : s.looks describe src (height + 1) c key = (s₁, none, started))
    (awaits : s₁.stage? (height + 1) c = some (.awaiting key' n))
    (unfinished : (s₁.layers[height + 1]?.bind fun cache => cache.outcome? n) = none) :
    s.poll describe src false (height + 1) c key =
      match s₁.poll describe src false height (.round n) key with
      | (s, .answered o) =>
        (s.apply describe (height + 1)
          (.finish n (.returned (o.mapError Failure.ofResourceError)))).1.settle
            describe (height + 1) c
      | (s, progress) => (s, progress) := by
  obtain ⟨s₀, hlook, decided⟩ := State.decided_of_looks looked
  rw [State.poll]
  rcases below : s₁.poll describe src false height (.round n) key with ⟨s₂, progress⟩
  cases progress <;> simp only [hlook, decided, awaits, unfinished, below]

/-! ## The innermost cache -/

omit [DecidableEq κ] in
theorem State.Shows.unfinished (h : s.Shows height x) (unfinished : x.cache.outcome? n = none) :
    (s.layers[height]?.bind fun cache => cache.outcome? n) = none := by
  rw [h.cache, Option.bind_some, unfinished]

variable (src height) in
/-- After its looks a request has been answered or waits for a round of its key. -/
theorem Single.board_awaits (h : x.Sound)
    (own : ∀ stage, x.cache.callers.get? c = some stage → stage.key = key)
    (untold : (x.board src height c key).2 = none) :
    ∃ n, (x.board src height c key).1.cache.callers.get? c = some (.awaiting key n) ∧
      (x.board src height c key).1.cache.Known key n := by
  have cache : (x.board src height c key).1.cache = (x.cache.board x.env c key).1 := by
    unfold Single.board
    dsimp only
    split <;> rfl
  rw [cache]
  replace untold : (x.cache.board x.env c key).2.1 = none := untold
  have boarded := x.cache.board_boarded x.env own
  generalize x.cache.board x.env c key = result at boarded untold
  cases boarded with
  | served _ _ => cases untold
  | waits awaits => exact ⟨_, awaits, h.calm.coherent.awaited _ _ _ awaits⟩
  | joins entry =>
    exact ⟨_, Table.get?_insert_self _ _ _, h.calm.coherent.inFlight _ _ entry⟩
  | starts _ _ =>
    exact ⟨_, Table.get?_insert_self _ _ _, _, Cache.Round.store_self _ _ _, rfl⟩

/-- The end of a fetch of the round, recorded by a caller that waits for it. -/
theorem State.Shows.finish (h : s.Shows height x) (running : x.cache.Running key n)
    (awaits : x.cache.callers.get? c = some (.awaiting key n))
    (ending : Ending (Resource α)) (ho : ending.outcome (describe key) = o) :
    ∃ s', (s.apply describe height (.finish n ending)).1.settle describe height c =
        (s', .answered o) ∧
      Alters s s' height { x with cache := (x.cache.endRound n o).settled c key n o } := by
  obtain ⟨r, hr, rfl, unfinished⟩ := running
  have awaited : x.cache.isAwaited n = true := Cache.State.isAwaited_iff.2 ⟨c, _, awaits⟩
  have hs : Cache.step describe x.env x.cache (.finish n ending) =
      some (x.env, x.cache.endRound n o,
        [.finished r.key n (x.env.now - r.startedAt) o]) := by
    simp [Cache.step, hr, unfinished, awaited, Cache.State.endRound_eq hr, ho]
  obtain ⟨s₁, applied, alters⟩ := h.apply hs
  have awaits₁ : (x.cache.endRound n o).callers.get? c = some (.awaiting r.key n) := by
    rw [Cache.State.endRound_eq hr]
    exact awaits
  have ended : (x.cache.endRound n o).outcome? n = some o := by
    rw [Cache.State.endRound_eq hr]
    exact Cache.State.outcome?_eq_some_iff.2 ⟨_, Cache.Round.store_self _ _ _, rfl⟩
  obtain ⟨s₂, settled, alters'⟩ := alters.shows.settle describe awaits₁ ended
  rw [applied]
  exact ⟨s₂, settled, alters.trans alters'⟩

/-- A poll of the innermost cache. -/
theorem State.Shows.poll (h : s.Shows 0 x) (sound : x.Sound) (steady : src.Steady)
    (unsevered : src.Unsevered)
    (own : ∀ stage, x.cache.callers.get? c = some stage → stage.key = key) :
    ∃ s', s.poll describe src false 0 c key = (s', (x.serve describe src c key).2) ∧
      Alters s s' 0 (x.serve describe src c key).1 := by
  obtain ⟨s₁, started, looked, alters⟩ := h.looks describe src sound.calm own
  have sound₁ := sound.board steady unsevered own
  have aboard := Single.board_awaits src 0 sound own
  unfold Single.serve
  generalize x.board src 0 c key = result at looked alters sound₁ aboard
  obtain ⟨y, told⟩ := result
  cases told with
  | some o => exact ⟨s₁, State.poll_of_told looked, alters⟩
  | none =>
    obtain ⟨n, awaits, known⟩ := aboard rfl
    dsimp only at awaits known alters sound₁ looked ⊢
    have waits : s₁.stage? 0 c = some (.awaiting key n) := (alters.shows.stage? c).trans awaits
    simp only [Single.arrive, awaits]
    rcases known.running_or_ended with running | ⟨-, o, ended⟩
    · have unfinished := Cache.State.outcome?_of_isRunning running
      obtain ⟨fetch, called, -, unsevered⟩ := sound₁.fetching n running
      have called₁ : s₁.fetches.get? n = some fetch := by rw [alters.shows.fetches, called]
      simp only [unfinished, called]
      have now : s₁.env.now = y.env.now := by rw [alters.shows.env]
      split
      · rename_i due
        rw [State.poll_of_due looked waits (alters.shows.unfinished unfinished) called₁ unsevered
          (now ▸ due), alters.shows.env]
        have ended : Alters s₁
            { s₁ with env := (fetch.ending y.env).1, fetches := s₁.fetches.erase n } 0
            { y with env := (fetch.ending y.env).1, fetches := y.fetches.erase n } :=
          ⟨⟨alters.shows.cache, rfl, by rw [alters.shows.fetches], alters.shows.memory,
            alters.shows.called⟩, fun _ _ => rfl⟩
        obtain ⟨s', finished, alters'⟩ :=
          ended.shows.finish (known.running running) awaits (fetch.ending y.env).2 rfl
        exact ⟨s', finished, (alters.trans ended).trans alters'⟩
      · rename_i early
        exact ⟨s₁, State.poll_of_early looked waits (alters.shows.unfinished unfinished) called₁
          (now ▸ early), alters⟩
    · simp only [ended]
      rw [State.poll_of_ended looked waits (by rw [alters.shows.cache, Option.bind_some, ended])]
      obtain ⟨s', settled, alters'⟩ := alters.shows.settle describe awaits ended
      exact ⟨s', settled, alters.trans alters'⟩

end Polls
end Stack
end SingleFlight
