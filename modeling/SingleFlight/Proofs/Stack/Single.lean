import SingleFlight.Proofs.Cache.Course
import SingleFlight.Stack

/-!
One cache over a source.

`Single.serve` is what a poll comes to where there is one cache, its rules are steady and the
outcome of a fetch is recorded as soon as the fetch has ended.  Then no round lies ended and
unsettled between two polls, and every round that runs has its fetch: `Sound`, which `serve` keeps.
-/

namespace SingleFlight

/-- The resources that the fetch can end with give one answer at one moment. -/
def Fetch.Steady {α : Type} (fetch : Fetch α) : Prop :=
  ∀ env, (fetch.ending env).2.isSteady = true

def Source.Steady {σ κ α : Type} (src : Source σ κ α) : Prop :=
  ∀ memory key now, (src.call memory key now).1.Steady

/-- No fetch takes the callers away that wait for it. -/
def Source.Unsevered {σ κ α : Type} (src : Source σ κ α) : Prop :=
  ∀ memory key now, (src.call memory key now).1.severs = false

namespace Cache

variable {ι κ α : Type} [DecidableEq ι]

namespace State

/-- The round has ended with the outcome. -/
def endRound (s : State ι κ α) (n : Nat) (o : Outcome (Resource α)) : State ι κ α :=
  match s.rounds n with
  | some r => { s with rounds := Round.store s.rounds n { r with outcome := some o } }
  | none => s

variable [DecidableEq κ]

/-- The caller has settled the round. -/
def settled (s : State ι κ α) (caller : ι) (key : κ) (n : Nat) (o : Outcome (Resource α)) :
    State ι κ α :=
  { s.leave caller with entries := settleEntry s.entries key n o }

/-- The looks of a request, one right after the other, where rules are steady and no round lies
unsettled.  The last part says whether a round was started. -/
def board (s : State ι κ α) (env : Surroundings) (caller : ι) (key : κ) :
    State ι κ α × Option (Outcome (Resource α)) × Bool :=
  match s.callers.get? caller with
  | some (.awaiting _ _) => (s, none, false)
  | _ =>
    match s.entries.get? key with
    | some (.ready _ resource) =>
      if (resource.validity.check env).1 then (s.leave caller, some (.ok resource), false)
      else (s.startRound env.now caller key, none, true)
    | some (.inFlight n) => (s.await caller key n, none, false)
    | none => (s.startRound env.now caller key, none, true)

end State

variable [DecidableEq κ] {s : State ι κ α} {env : Surroundings} {caller : ι} {key : κ} {n : Nat}

/-- Nothing lies unsettled, and what is stored is steady. -/
structure Calm (s : State ι κ α) : Prop where
  coherent : Coherent s
  settled : ∀ key n, s.entries.get? key = some (.inFlight n) → s.isRunning n = true
  steady : ∀ key n resource, s.entries.get? key = some (.ready n resource) →
    resource.validity.isSteady = true

theorem Calm.empty : Calm (State.empty : State ι κ α) := ⟨.empty, nofun, nofun⟩

namespace Calm

theorem defer (h : Calm s) (c : ι) (key : κ) :
    Calm { s with callers := s.callers.insert c (.undecided key) } := by
  refine ⟨h.coherent.with_callers fun c' key' n awaits => ?_, h.settled, h.steady⟩
  rcases Table.get?_of_get?_insert awaits with ⟨-, hstage⟩ | ⟨-, before⟩
  · cases hstage
  · exact h.coherent.awaited c' key' n before

theorem leave (h : Calm s) (c : ι) : Calm (s.leave c) :=
  ⟨h.coherent.leave c, h.settled, h.steady⟩

theorem await (h : Calm s) (c : ι) (entry : s.entries.get? key = some (.inFlight n)) :
    Calm (s.await c key n) :=
  ⟨h.coherent.await c entry, h.settled, h.steady⟩

theorem not_running (h : Calm s) (entry : ∀ n, s.entries.get? key ≠ some (.inFlight n)) (m : Nat) :
    ¬ s.Running key m :=
  fun running => entry m (h.coherent.running key m running)

theorem startRound (h : Calm s) (now : Nat) (c : ι)
    (entry : ∀ n, s.entries.get? key ≠ some (.inFlight n)) : Calm (s.startRound now c key) := by
  refine ⟨h.coherent.startRound now c (h.not_running entry), fun key' n he => ?_,
    fun key' n resource he => ?_⟩
  · rcases Table.get?_of_get?_insert he with ⟨-, hslot⟩ | ⟨-, before⟩
    · obtain rfl : s.started = n := by simpa using hslot
      exact State.isRunning_iff.2 ⟨_, Round.store_self _ _ _, rfl⟩
    · rw [h.coherent.isRunning_startRound (h.coherent.inFlight key' n before)]
      exact h.settled key' n before
  · rcases Table.get?_of_get?_insert he with ⟨-, hslot⟩ | ⟨-, before⟩
    · cases hslot
    · exact h.steady key' n resource before

end Calm

/-! ## Looks -/

/-- What the looks of a request come to. -/
inductive Boarded (s : State ι κ α) (env : Surroundings) (caller : ι) (key : κ) :
    State ι κ α × Option (Outcome (Resource α)) × Bool → Prop where
  | served {n : Nat} {resource : Resource α} : s.entries.get? key = some (.ready n resource) →
      (resource.validity.check env).1 = true →
      Boarded s env caller key (s.leave caller, some (.ok resource), false)
  | waits {n : Nat} : s.callers.get? caller = some (.awaiting key n) →
      Boarded s env caller key (s, none, false)
  | joins {n : Nat} : s.entries.get? key = some (.inFlight n) →
      Boarded s env caller key (s.await caller key n, none, false)
  | starts : (∀ n, s.entries.get? key ≠ some (.inFlight n)) →
      (∀ n resource, s.entries.get? key = some (.ready n resource) →
        (resource.validity.check env).1 = false) →
      Boarded s env caller key (s.startRound env.now caller key, none, true)

/-- Where no round is started only callers come and go. -/
theorem Boarded.same {s' : State ι κ α} {told : Option (Outcome (Resource α))}
    (h : Boarded s env caller key (s', told, false)) :
    s'.entries = s.entries ∧ s'.started = s.started ∧ s'.rounds = s.rounds := by
  cases h <;> exact ⟨rfl, rfl, rfl⟩

theorem Boarded.calm (h : Calm s) {s' : State ι κ α} {told : Option (Outcome (Resource α))}
    (boarded : Boarded s env caller key (s', told, false)) : Calm s' := by
  cases boarded with
  | served _ _ => exact h.leave caller
  | waits _ => exact h
  | joins entry => exact h.await caller entry

theorem State.board_boarded (s : State ι κ α) (env : Surroundings)
    (own : ∀ stage, s.callers.get? caller = some stage → stage.key = key) :
    Boarded s env caller key (s.board env caller key) := by
  unfold State.board
  split
  · rename_i key' n awaits
    obtain rfl : key' = key := own _ awaits
    exact .waits awaits
  · split
    · rename_i n resource entry
      split
      · rename_i valid
        exact .served entry valid
      · rename_i stale
        refine .starts (by simp [entry]) fun n' resource' entry' => ?_
        obtain ⟨-, rfl⟩ : n = n' ∧ resource = resource' := by simpa using entry.symm.trans entry'
        simpa using stale
    · rename_i n entry
      exact .joins entry
    · rename_i entry
      exact .starts (by simp [entry]) (by simp [entry])

theorem State.board_of_awaiting (awaits : s.callers.get? caller = some (.awaiting key n))
    (env : Surroundings) : s.board env caller key = (s, none, false) := by
  simp only [State.board, awaits]

theorem State.board_of_idle (free : ∀ key' n, s.callers.get? caller ≠ some (.awaiting key' n))
    (ready : ∀ n, s.entries.get? key ≠ some (.inFlight n))
    (stale : ∀ n resource, s.entries.get? key = some (.ready n resource) →
      (resource.validity.check env).1 = false) :
    s.board env caller key = (s.startRound env.now caller key, none, true) := by
  unfold State.board
  split
  · rename_i awaits
    exact absurd awaits (free _ _)
  · split
    · rename_i entry
      rw [stale _ _ entry]
      rfl
    · rename_i entry
      exact absurd entry (ready _)
    · rfl

/-- It makes no difference whether the first look was taken before. -/
theorem State.board_deferred (free : s.callers.get? caller = none)
    (ready : ∀ n, s.entries.get? key ≠ some (.inFlight n))
    (stale : ∀ n resource, s.entries.get? key = some (.ready n resource) →
      (resource.validity.check env).1 = false) :
    State.board { s with callers := s.callers.insert caller (.undecided key) } env caller key =
      s.board env caller key := by
  let deferred : State ι κ α := { s with callers := s.callers.insert caller (.undecided key) }
  have direct : s.board env caller key = (s.startRound env.now caller key, none, true) :=
    State.board_of_idle (by simp [free]) ready stale
  have later : deferred.board env caller key =
      (deferred.startRound env.now caller key, none, true) :=
    State.board_of_idle (by simp [deferred]) ready stale
  rw [direct]
  refine later.trans ?_
  simp only [deferred, State.startRound, Table.insert_insert]

theorem Calm.check_eq (h : Calm s) {resource : Resource α}
    (entry : s.entries.get? key = some (.ready n resource)) (env : Surroundings) :
    resource.validity.check env = ((resource.validity.check env).1, env) :=
  Prod.ext rfl (Validity.check_snd_of_isSteady (h.steady key n resource entry) env)

/-- A second look does all that there is to do. -/
theorem Calm.secondLook_eq (h : Calm s) (env : Surroundings)
    (undecided : s.callers.get? caller = some (.undecided key)) :
    ∃ notes, secondLook env s caller key = (env, (s.board env caller key).1, notes) ∧
      (notes.findSome? Note.answer?).map (fun answer => answer.2.2) =
        (s.board env caller key).2.1 := by
  simp only [State.board, undecided, secondLook, miss]
  cases entry : s.entries.get? key with
  | none => exact ⟨_, rfl, rfl⟩
  | some slot =>
    cases slot with
    | ready n resource =>
      dsimp only
      rw [h.check_eq entry env]
      cases (resource.validity.check env).1 with
      | true => exact ⟨_, rfl, rfl⟩
      | false => exact ⟨_, rfl, rfl⟩
    | inFlight n =>
      dsimp only
      rw [h.settled key n entry]
      exact ⟨_, rfl, rfl⟩

/-- A first look does all that there is to do, or leaves it to the second. -/
theorem Calm.firstLook_eq (h : Calm s) (env : Surroundings) (key : κ)
    (free : s.callers.get? caller = none) :
    (∃ notes, firstLook env s caller key = (env, (s.board env caller key).1, notes) ∧
      (notes.findSome? Note.answer?).map (fun answer => answer.2.2) =
        (s.board env caller key).2.1 ∧ (s.board env caller key).2.2 = false ∧
      ((s.board env caller key).2.1 = none →
        ∃ n, (s.board env caller key).1.callers.get? caller = some (.awaiting key n))) ∨
    firstLook env s caller key =
        (env, { s with callers := s.callers.insert caller (.undecided key) }, []) ∧
      (∀ n, s.entries.get? key ≠ some (.inFlight n)) ∧
      ∀ n resource, s.entries.get? key = some (.ready n resource) →
        (resource.validity.check env).1 = false := by
  simp only [State.board, free, firstLook]
  cases entry : s.entries.get? key with
  | none => exact .inr ⟨rfl, by simp, by simp⟩
  | some slot =>
    cases slot with
    | ready n resource =>
      dsimp only
      rw [h.check_eq entry env]
      cases valid : (resource.validity.check env).1 with
      | true =>
        rw [State.leave_eq_self free]
        exact .inl ⟨_, rfl, rfl, rfl, nofun⟩
      | false =>
        refine .inr ⟨rfl, by simp, fun n' resource' entry' => ?_⟩
        obtain ⟨-, rfl⟩ : n = n' ∧ resource = resource' := by simpa using entry'
        exact valid
    | inFlight n =>
      dsimp only
      rw [h.settled key n entry]
      exact .inl ⟨_, rfl, rfl, rfl, fun _ => ⟨n, Table.get?_insert_self _ _ _⟩⟩

theorem State.board_started (s : State ι κ α) (env : Surroundings) (caller : ι) (key : κ) :
    (s.board env caller key).1.started =
      if (s.board env caller key).2.2 then s.started + 1 else s.started := by
  unfold State.board
  split
  · rfl
  · split
    · split <;> rfl
    · rfl
    · rfl

/-! ## The end of a round -/

omit [DecidableEq ι] [DecidableEq κ] in
theorem State.endRound_eq {r : Round κ α} (hr : s.rounds n = some r)
    (o : Outcome (Resource α)) :
    s.endRound n o =
      { s with rounds := Round.store s.rounds n { r with outcome := some o } } := by
  simp only [State.endRound, hr]

/-- Settling an ended round again only lets the caller go. -/
theorem Calm.settled_of_ended (h : Calm s) {o : Outcome (Resource α)}
    (ended : s.outcome? n = some o) (o' : Outcome (Resource α)) :
    s.settled caller key n o' = s.leave caller := by
  have entry : s.entries.get? key ≠ some (.inFlight n) := by
    intro entry
    rw [State.outcome?_of_isRunning (h.settled key n entry)] at ended
    cases ended
  simp only [State.settled, State.settleEntry_eq_self entry]
  rfl

/-- What is left after a round has ended and was settled at once. -/
theorem Calm.end_settled (h : Calm s) (running : s.Running key n) (c : ι)
    {o : Outcome (Resource α)}
    (steady : ∀ resource, o = .ok resource → resource.validity.isSteady = true) :
    Calm ((s.endRound n o).settled c key n o) := by
  have entry := h.coherent.running key n running
  obtain ⟨r, hr, hkey, ho⟩ := running
  rw [State.endRound_eq hr]
  have ended : State.outcome?
      { s with rounds := Round.store s.rounds n { r with outcome := some o } } n = some o :=
    State.outcome?_eq_some_iff.2 ⟨_, Round.store_self _ _ _, rfl⟩
  -- The entry of the key is what the outcome left, and all others are as before.
  have after : ∀ key' slot, (State.settleEntry s.entries key n o).get? key' = some slot →
      (∃ resource, o = .ok resource ∧ slot = .ready n resource) ∨
        key ≠ key' ∧ s.entries.get? key' = some slot := by
    intro key' slot hslot
    by_cases same : key = key'
    · subst same
      rw [State.get?_settleEntry_self entry] at hslot
      cases o with
      | ok resource => exact .inl ⟨resource, rfl, (Option.some.inj hslot).symm⟩
      | error e => cases hslot
    · exact .inr ⟨same, (State.get?_settleEntry_of_ne same).symm.trans hslot⟩
  refine ⟨((h.coherent.finish hr ho o).leave c).settleEntry ended, fun key' m hslot => ?_,
    fun key' m resource hslot => ?_⟩
  · rcases after key' _ hslot with ⟨_, _, different⟩ | ⟨different, before⟩
    · cases different
    · obtain ⟨r', hr', ho'⟩ := State.isRunning_iff.1 (h.settled key' m before)
      have other : m ≠ n := by
        rintro rfl
        obtain ⟨r'', hr'', rfl⟩ := h.coherent.inFlight key' m before
        obtain rfl : r = r'' := by simpa using hr.symm.trans hr''
        exact different hkey.symm
      exact State.isRunning_iff.2 ⟨r', (Round.store_of_ne _ _ other).trans hr', ho'⟩
  · rcases after key' _ hslot with ⟨resource', ok, same⟩ | ⟨-, before⟩
    · obtain ⟨-, rfl⟩ : m = n ∧ resource = resource' := by simpa using same
      exact steady resource ok
    · exact h.steady key' m resource before

omit [DecidableEq κ] [DecidableEq ι] in
theorem State.isRunning_endRound {m : Nat} {o : Outcome (Resource α)}
    (hm : (s.endRound n o).isRunning m = true) (known : (s.rounds n).isSome = true) :
    m ≠ n ∧ s.isRunning m = true := by
  obtain ⟨r, hr⟩ := Option.isSome_iff_exists.1 known
  rw [State.endRound_eq hr] at hm
  obtain ⟨r', hr', ho⟩ := State.isRunning_iff.1 hm
  by_cases same : m = n
  · subst same
    obtain rfl : _ = r' := by simpa using hr'
    cases ho
  · exact ⟨same, State.isRunning_iff.2 ⟨r', (Round.store_of_ne _ _ same).symm.trans hr', ho⟩⟩

end Cache

namespace Stack

/-! ## A cache and its source -/

/-- One cache over a source. -/
structure Single (σ κ α : Type) where
  env : Surroundings
  cache : Cache.State Caller κ α
  fetches : Table Nat (Fetch α)
  memory : σ
  called : List κ

variable {σ κ α : Type} [DecidableEq κ]

namespace Single

/-- Call the source for a round. -/
def call (src : Source σ κ α) (key : κ) (n : Nat) (x : Single σ κ α) : Single σ κ α :=
  let (fetch, memory) := src.call x.memory key x.env.now
  { x with
    fetches := x.fetches.insert n fetch
    memory := memory
    called := x.called ++ [key] }

/-- The looks of a request at a height, and the call of the source if they start a round there. -/
def board (src : Source σ κ α) (height : Nat) (c : Caller) (key : κ) (x : Single σ κ α) :
    Single σ κ α × Option (Outcome (Resource α)) :=
  let (cache, answer, started) := x.cache.board x.env c key
  let y := { x with cache := cache }
  (if started && height == 0 then y.call src key x.cache.started else y, answer)

/-- A request goes on to the end of the fetch that it waits for. -/
def arrive (describe : κ → String) (c : Caller) (x : Single σ κ α) : Single σ κ α × Progress α :=
  match x.cache.callers.get? c with
  | some (.awaiting key n) =>
    match x.cache.outcome? n with
    | some o => ({ x with cache := x.cache.settled c key n o }, .answered o)
    | none =>
      match x.fetches.get? n with
      | some fetch =>
        if fetch.due ≤ x.env.now then
          let (env, ending) := fetch.ending x.env
          let o := ending.outcome (describe key)
          ({ x with
              env := env
              fetches := x.fetches.erase n
              cache := (x.cache.endRound n o).settled c key n o }, .answered o)
        else (x, .waiting fetch.due)
      | none => (x, .held)
  | _ => (x, .held)

/-- Carry a request forward as far as it can go. -/
def serve (describe : κ → String) (src : Source σ κ α) (c : Caller) (key : κ) (x : Single σ κ α) :
    Single σ κ α × Progress α :=
  match x.board src 0 c key with
  | (x, some o) => (x, .answered o)
  | (x, none) => x.arrive describe c

/-- The cache is calm, and each round that runs has a fetch. -/
structure Sound (x : Single σ κ α) : Prop where
  calm : Cache.Calm x.cache
  fetching : ∀ n, x.cache.isRunning n = true →
    ∃ fetch, x.fetches.get? n = some fetch ∧ fetch.Steady ∧ fetch.severs = false

section Sound

variable {describe : κ → String} {src : Source σ κ α} {x : Single σ κ α} {c : Caller} {key : κ}

theorem Sound.settles (h : x.Sound) {cache : Cache.State Caller κ α} (calm : Cache.Calm cache)
    (rounds : cache.rounds = x.cache.rounds) : Sound { x with cache := cache } := by
  refine ⟨calm, fun n running => h.fetching n ?_⟩
  rwa [Cache.State.isRunning, rounds, ← Cache.State.isRunning] at running

theorem Sound.board (h : x.Sound) (steady : src.Steady) (unsevered : src.Unsevered)
    (own : ∀ stage, x.cache.callers.get? c = some stage → stage.key = key) :
    (x.board src 0 c key).1.Sound := by
  have boarded := x.cache.board_boarded x.env own
  unfold Single.board
  generalize x.cache.board x.env c key = result at boarded
  cases boarded with
  | served _ _ => exact h.settles (h.calm.leave c) rfl
  | waits _ => exact h
  | joins entry => exact h.settles (h.calm.await c entry) rfl
  | starts entry _ =>
    refine ⟨h.calm.startRound _ c entry, fun n running => ?_⟩
    by_cases new : n = x.cache.started
    · subst new
      exact ⟨_, Table.get?_insert_self _ _ _, steady _ _ _, unsevered _ _ _⟩
    · obtain ⟨r, hr, ho⟩ := Cache.State.isRunning_iff.1 running
      obtain ⟨fetch, there⟩ := h.fetching n
        (Cache.State.isRunning_iff.2 ⟨r, (Cache.Round.store_of_ne _ _ new).symm.trans hr, ho⟩)
      exact ⟨fetch, (Table.get?_insert_of_ne (Ne.symm new)).trans there.1, there.2⟩

variable (describe) in
theorem Sound.arrive (h : x.Sound) : (x.arrive describe c).1.Sound := by
  unfold Single.arrive
  split
  · rename_i key n awaits
    split
    · rename_i o ended
      rw [h.calm.settled_of_ended ended]
      exact h.settles (h.calm.leave c) rfl
    · rename_i unfinished
      split
      · rename_i fetch called
        split
        · have known := h.calm.coherent.awaited c key n awaits
          have running := known.running_of_unfinished unfinished
          obtain ⟨fetch', called', steady, -⟩ := h.fetching n running.isRunning
          obtain rfl : fetch = fetch' := by simpa using called.symm.trans called'
          refine ⟨h.calm.end_settled running c fun resource ok =>
            Ending.isSteady_of_outcome (steady x.env) ok, fun m hm => ?_⟩
          obtain ⟨r, hr, -⟩ := known
          obtain ⟨other, before⟩ :=
            Cache.State.isRunning_endRound hm (Option.isSome_iff_exists.2 ⟨r, hr⟩)
          obtain ⟨fetch'', there⟩ := h.fetching m before
          exact ⟨fetch'', (Table.get?_erase_of_ne (Ne.symm other)).trans there.1, there.2⟩
        · exact h
      · exact h
  · exact h

variable (describe) in
theorem Sound.serve (h : x.Sound) (steady : src.Steady) (unsevered : src.Unsevered)
    (own : ∀ stage, x.cache.callers.get? c = some stage → stage.key = key) :
    (x.serve describe src c key).1.Sound := by
  have boarded := h.board steady unsevered own
  unfold Single.serve
  split
  · rename_i hb
    rw [hb] at boarded
    exact boarded
  · rename_i hb
    rw [hb] at boarded
    exact boarded.arrive describe

end Sound
end Single
end Stack
end SingleFlight
