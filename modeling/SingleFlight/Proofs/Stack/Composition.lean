import SingleFlight.Proofs.Stack.Layers

/-!
A stack of caches answers like one cache.

A schedule is a list of turns: clients look, go on with their requests and go away, flags change and
time passes.  `State.play` shows for each turn what the client is told and which calls the source
has had.  If the outcome of a fetch is recorded as soon as the fetch has ended, this does not depend
on the height of the stack: `play_eq_single`.

If the callers of a fetch are taken away just then, it does.  The innermost cache knows that the
fetch has ended, and would call another one for a new request.  The caches above do not know, and
have the request join: `play_ne_single_severed`.
-/

namespace SingleFlight
namespace Stack

/-- One turn of those who use a stack. -/
inductive Turn (κ : Type) where
  /-- The client takes the first look of a request, if it has none under way. -/
  | look (client : Nat) (key : κ)
  /-- The client carries its request forward as far as it goes; it begins one if it has none. -/
  | poll (client : Nat) (key : κ)
  | cancel (client : Nat)
  | setFlag (flag : String) (up : Bool)
  | pass (d : Nat)

/-- What is to be seen of a turn. -/
structure Seen (κ α : Type) where
  now : Nat
  /-- What the client is told. -/
  answer : Option (Outcome (Resource α))
  /-- The keys of the calls to the source so far. -/
  called : List κ

variable {σ κ α : Type} [DecidableEq κ]

namespace State

/-- The key of the request that the caller has under way, or else the key that it begins one for. -/
def keyOf (height : Nat) (c : Caller) (key : κ) (s : State σ κ α) : κ :=
  ((s.stage? height c).map Cache.Stage.key).getD key

def turn (describe : κ → String) (src : Source σ κ α) (height : Nat) (s : State σ κ α) :
    Turn κ → State σ κ α × Option (Outcome (Resource α))
  | .look client key => s.look describe height (.client client) key
  | .poll client key =>
    let c := .client client
    match s.poll describe src false height c (s.keyOf height c key) with
    | (s, .answered o) => (s, some o)
    | (s, _) => (s, none)
  | .cancel client => (s.drop describe height (.client client), none)
  | .setFlag flag up => ({ s with env := s.env.setFlag flag up }, none)
  | .pass d => ({ s with env := s.env.pass d }, none)

def play (describe : κ → String) (src : Source σ κ α) (height : Nat) :
    List (Turn κ) → State σ κ α → List (Seen κ α)
  | [], _ => []
  | turn :: turns, s =>
    let (s, answer) := s.turn describe src height turn
    { now := s.env.now, answer := answer, called := s.called } ::
      play describe src height turns s

end State

/-! ## Turns -/

/-- What the progress of a request tells its caller. -/
def Progress.answer? : Progress α → Option (Outcome (Resource α))
  | .answered o => some o
  | _ => none

section Turns

variable {describe : κ → String} {src : Source σ κ α} {x : Single σ κ α}

omit [DecidableEq κ] in
theorem Shadow.empty : Shadow (Cache.State.empty : Cache.State Caller κ α) Cache.State.empty := by
  refine ⟨rfl, rfl, rfl, fun c stage => ⟨nofun, ?_⟩⟩
  rintro ⟨key, n, -, -, r, hr, -⟩
  cases hr

theorem Fits.start (height : Nat) (memory : σ) :
    Fits (State.start height memory : State σ κ α) height
      { env := Surroundings.start, cache := Cache.State.empty, fetches := Table.empty
        memory := memory, called := [] } := by
  have layers : ∀ k, k < height + 1 →
      (State.start height memory : State σ κ α).layers[k]? = some Cache.State.empty :=
    fun k hk => by simp [State.start, hk]
  refine ⟨⟨layers height (Nat.lt_succ_self _), rfl, rfl, rfl, rfl⟩, ⟨.empty, nofun⟩, fun k hk => ?_⟩
  exact ⟨_, layers k (Nat.lt_succ_of_lt hk), .empty⟩

/-- What the surroundings are makes no difference to the caches. -/
theorem Fits.with_env {height : Nat} {s : State σ κ α} (fits : Fits s height x)
    (change : Surroundings → Surroundings) :
    Fits { s with env := change s.env } height { x with env := change x.env } :=
  ⟨⟨fits.shows.cache, congrArg change fits.shows.env, fits.shows.fetches, fits.shows.memory,
    fits.shows.called⟩, ⟨fits.sound.calm, fits.sound.fetching⟩, fits.below⟩

variable (describe) in
theorem look_fits (sound : x.Sound) (c : Caller) (key : κ) :
    ∃ x' answer, ∀ height (s : State σ κ α), Fits s height x →
      ∃ s', s.look describe height c key = (s', answer) ∧ Fits s' height x' := by
  have taken : ∀ {cache notes}, x.cache.callers.get? c = none →
      Cache.firstLook x.env x.cache c key = (x.env, cache, notes) → Cache.Calm cache →
      cache.entries = x.cache.entries → cache.started = x.cache.started →
      cache.rounds = x.cache.rounds → ∀ height (s : State σ κ α), Fits s height x →
      ∃ s', s.look describe height c key =
          (s', (notes.findSome? Cache.Note.answer?).map fun answer => answer.2.2) ∧
        Fits s' height { x with cache := cache } := by
    intro cache notes free looked calm entries started rounds height s fits
    have hs : Cache.step describe x.env x.cache (.look c key) = some (x.env, cache, notes) := by
      simp only [Cache.step, free, looked]
    obtain ⟨s', applied, alters⟩ := fits.shows.apply hs
    refine ⟨s', ?_, fits.above alters (sound.settles calm rounds) entries started rounds⟩
    simp only [State.look, fits.shows.stage?, free, applied]
  cases hc : x.cache.callers.get? c with
  | some stage =>
    refine ⟨x, none, fun height s fits => ⟨s, ?_, fits⟩⟩
    simp only [State.look, fits.shows.stage?, hc]
  | none =>
    rcases sound.calm.firstLook_eq x.env key hc with
      ⟨notes, looked, answer, unstarted, -⟩ | ⟨looked, -, -⟩
    · have own : ∀ stage, x.cache.callers.get? c = some stage → stage.key = key := by simp [hc]
      have boarded := x.cache.board_boarded x.env own
      generalize x.cache.board x.env c key = result at looked answer unstarted boarded
      obtain ⟨cache, told, began⟩ := result
      obtain rfl : began = false := unstarted
      obtain ⟨entries, started, rounds⟩ := boarded.same
      exact ⟨_, _, taken hc looked (boarded.calm sound.calm) entries started rounds⟩
    · exact ⟨_, _, taken hc looked (sound.calm.defer c key) rfl rfl rfl⟩

variable (describe) in
theorem drop_fits (sound : x.Sound) (c : Caller) :
    ∃ x', ∀ height (s : State σ κ α), Fits s height x →
      Fits (s.drop describe height c) height x' := by
  cases hc : x.cache.callers.get? c with
  | none =>
    refine ⟨x, fun height s fits => ?_⟩
    have stays : s.drop describe height c = s := by
      simp only [State.drop, State.apply, fits.shows.cache, Cache.step, hc]
    rw [stays]
    exact fits
  | some stage =>
    refine ⟨{ x with cache := x.cache.leave c }, fun height s fits => ?_⟩
    have hs : Cache.step describe x.env x.cache (.drop c) =
        some (x.env, x.cache.leave c, []) := by
      simp only [Cache.step, hc]
    obtain ⟨s', applied, alters⟩ := fits.shows.apply hs
    simp only [State.drop, applied]
    exact fits.above alters (sound.settles (sound.calm.leave c) rfl) rfl rfl rfl

variable (describe) in
/-- A turn comes to the same at every height. -/
theorem turn_fits (steady : src.Steady) (unsevered : src.Unsevered) (sound : x.Sound)
    (turn : Turn κ) :
    ∃ x' answer, ∀ height (s : State σ κ α), Fits s height x →
      ∃ s', s.turn describe src height turn = (s', answer) ∧ Fits s' height x' := by
  cases turn with
  | look client key => exact look_fits describe sound (.client client) key
  | poll client key =>
    let c : Caller := .client client
    let goal := ((x.cache.callers.get? c).map Cache.Stage.key).getD key
    have own : ∀ stage, x.cache.callers.get? c = some stage → stage.key = goal :=
      fun stage hc => by simp [goal, hc]
    refine ⟨(x.serve describe src c goal).1, (x.serve describe src c goal).2.answer?,
      fun height s fits => ?_⟩
    have hkey : s.keyOf height c key = goal := by
      simp only [State.keyOf, fits.shows.stage?, goal]
    obtain ⟨s', polled, fits', -⟩ := Fits.poll describe steady unsevered height fits own
    refine ⟨s', ?_, fits'⟩
    simp only [State.turn, c] at polled ⊢
    rw [hkey, polled]
    cases (x.serve describe src (.client client) goal).2 <;> rfl
  | cancel client =>
    obtain ⟨x', fits'⟩ := drop_fits describe sound (.client client)
    exact ⟨x', none, fun height s fits => ⟨_, rfl, fits' height s fits⟩⟩
  | setFlag flag up =>
    exact ⟨_, none, fun height s fits => ⟨_, rfl, fits.with_env fun env => env.setFlag flag up⟩⟩
  | pass d =>
    exact ⟨_, none, fun height s fits => ⟨_, rfl, fits.with_env fun env => env.pass d⟩⟩

theorem play_fits (steady : src.Steady) (unsevered : src.Unsevered) {height : Nat}
    {s t : State σ κ α} (fits : Fits s height x) (single : Fits t 0 x) (turns : List (Turn κ)) :
    s.play describe src height turns = t.play describe src 0 turns := by
  induction turns generalizing s t x with
  | nil => rfl
  | cons turn turns ih =>
    obtain ⟨x', answer, taken⟩ := turn_fits describe steady unsevered fits.sound turn
    obtain ⟨s', hs, fits'⟩ := taken height s fits
    obtain ⟨t', ht, single'⟩ := taken 0 t single
    simp only [State.play, hs, ht, ih fits' single', fits'.shows.env, fits'.shows.called,
      single'.shows.env, single'.shows.called]

end Turns

/-! ## Schedules -/

/-- At every height the clients are told the same, and the source is called for the same keys at the
same instants, whatever the schedule.  Rules have to give one answer at one moment, and the outcome
of a fetch has to be recorded before anything else happens. -/
theorem play_eq_single (describe : κ → String) (src : Source σ κ α) (steady : src.Steady)
    (unsevered : src.Unsevered) (height : Nat) (memory : σ) (turns : List (Turn κ)) :
    State.play describe src height turns (State.start height memory) =
      State.play describe src 0 turns (State.start 0 memory) :=
  play_fits steady unsevered (.start height memory) (.start 0 memory) turns

/-- A source whose first call fails after a while, and which gives a resource from then on. -/
def faltering (delay : Nat) (severs : Bool) : Source Nat Nat Nat where
  call calls _ now :=
    ({ due := now + delay
       severs := severs
       ending := fun env => (env, .returned
         (if calls = 0 then .error (.plain "down")
          else .ok
            { value := calls, object := calls, validity := .permanent, sensitive := false })) },
      calls + 1)

theorem faltering_steady (delay : Nat) (severs : Bool) : (faltering delay severs).Steady := by
  intro calls key now env
  by_cases h : calls = 0 <;> simp [faltering, h, Ending.isSteady, Validity.isSteady]

/-- A client goes away while its fetch runs, the next one gets the failure of that fetch, and the
one after it has another fetch called. -/
theorem play_eq_single_abandoned :
    (faltering 5 false).Steady ∧ (faltering 5 false).Unsevered ∧
      (State.play (fun _ => "") (faltering 5 false) 2
        [.poll 0 7, .cancel 0, .pass 5, .poll 1 7, .poll 2 7] (State.start 2 0)).map Seen.called =
        [[7], [7], [7], [7], [7, 7]] := by
  have unsevered : (faltering 5 false).Unsevered := fun _ _ _ => rfl
  refine ⟨faltering_steady 5 false, unsevered, ?_⟩
  rw [play_eq_single _ _ (faltering_steady 5 false) unsevered]
  rfl

/-- A client is taken away at the end of its fetch, before the outcome is recorded.  With a single
cache the next client has another fetch called; with two caches it joins what the outer one takes
for a round that still runs, and gets the failure. -/
theorem play_ne_single_severed :
    ∃ (src : Source Nat Nat Nat) (turns : List (Turn Nat)), src.Steady ∧
      State.play (fun _ => "") src 1 turns (State.start 1 0) ≠
        State.play (fun _ => "") src 0 turns (State.start 0 0) := by
  refine ⟨faltering 0 true, [.poll 0 7, .cancel 0, .poll 1 7], faltering_steady 0 true,
    fun same => ?_⟩
  have called := congrArg (List.map Seen.called) same
  revert called
  decide

end Stack
end SingleFlight
