import SingleFlight.Proofs.Cache.Course

/-!
One caller after another: a cache without its rounds.

While nobody else is at work a request looks, and looks again if it has to; then it starts a round,
waits until that has ended, and settles it.  `Visit.serve` carries a request through these steps.
Between requests no round is in flight, and the table holds a resource for each of its keys.  So the
cache answers like a plain `Memo` of what was fetched last: `serveAll_eq_memo`.
-/

namespace SingleFlight
namespace Cache

/-- A request in a sequence of requests.  It looks in the surroundings `asked`; if it calls a fetch,
the fetch ends in the surroundings `ended`, as `ending`. -/
structure Visit (ι κ α : Type) where
  caller : ι
  key : κ
  asked : Surroundings
  ended : Surroundings
  ending : Ending (Resource α)

/-- What is to be seen of a request: the number of fetches called, and what the caller is told. -/
structure Reply (α : Type) where
  calls : Nat
  answers : List (Outcome (Resource α))

variable {ι κ α : Type} [DecidableEq ι] [DecidableEq κ]

def Reply.ofNotes (notes : List (Note ι κ α)) : Reply α :=
  { calls := (notes.filterMap Note.called?).length
    answers := notes.filterMap fun note => note.answer?.map fun answer => answer.2.2 }

/-! ## The cache -/

namespace Visit

/-- The surroundings of an event of the request.  Only while its fetch runs do they change. -/
def surroundings (v : Visit ι κ α) (env : Surroundings) : Event ι κ α → Surroundings
  | .finish _ _ => v.ended
  | _ => env

/-- Carry the request on, by so many events at most. -/
def carry (describe : κ → String) (v : Visit ι κ α) :
    Nat → Surroundings → State ι κ α → Option (State ι κ α × List (Note ι κ α))
  | 0, _, s => some (s, [])
  | k + 1, env, s =>
    match s.next? v.caller v.ending with
    | none => some (s, [])
    | some e =>
      match step describe (v.surroundings env e) s e with
      | none => none
      | some (env, s, notes) =>
        (v.carry describe k env s).map fun (s, more) => (s, notes ++ more)

/-- The whole request: its first look, and at most three events more. -/
def serve (describe : κ → String) (v : Visit ι κ α) (s : State ι κ α) :
    Option (State ι κ α × Reply α) :=
  match step describe v.asked s (.look v.caller v.key) with
  | none => none
  | some (env, s, notes) =>
    (v.carry describe 3 env s).map fun (s, more) => (s, Reply.ofNotes (notes ++ more))

end Visit

/-- Requests one after another. -/
def serveAll (describe : κ → String) :
    List (Visit ι κ α) → State ι κ α → Option (State ι κ α × List (Reply α))
  | [], s => some (s, [])
  | v :: visits, s =>
    match v.serve describe s with
    | none => none
    | some (s, reply) =>
      (serveAll describe visits s).map fun (s, replies) => (s, reply :: replies)

/-! ## The memo table -/

/-- What was fetched last for each key, if that went well. -/
abbrev Memo (κ α : Type) := Table κ (Resource α)

namespace Memo

/-- The outcome of a fetch takes the place of what was stored; a failure is not stored. -/
def record (memo : Memo κ α) (key : κ) : Outcome (Resource α) → Memo κ α
  | .ok resource => memo.insert key resource
  | .error _ => memo.erase key

/-- A stored resource is served while it is valid.  Otherwise one fetch is called. -/
def serve (describe : κ → String) (v : Visit ι κ α) (memo : Memo κ α) : Memo κ α × Reply α :=
  match (memo.get? v.key).filter fun resource => (resource.validity.check v.asked).1 with
  | some resource => (memo, { calls := 0, answers := [.ok resource] })
  | none =>
    let outcome := v.ending.outcome (describe v.key)
    (record memo v.key outcome, { calls := 1, answers := [outcome] })

def serveAll (describe : κ → String) :
    List (Visit ι κ α) → Memo κ α → Memo κ α × List (Reply α)
  | [], memo => (memo, [])
  | v :: visits, memo =>
    let (memo, reply) := serve describe v memo
    let (memo, replies) := serveAll describe visits memo
    (memo, reply :: replies)

end Memo

/-! ## One request -/

/-- Nobody is at work, and the table holds what the memo table does. -/
structure Holds (s : State ι κ α) (memo : Memo κ α) : Prop where
  idle : ∀ c, s.callers.get? c = none
  keys : s.entries.keys = memo.keys
  ready : ∀ key slot, s.entries.get? key = some slot →
    ∃ n resource, slot = .ready n resource ∧ memo.get? key = some resource
  steady : ∀ key resource, memo.get? key = some resource → resource.validity.isSteady = true

section Visit

variable {describe : κ → String} {v : Visit ι κ α} {s : State ι κ α} {memo : Memo κ α}
  {env : Surroundings}

theorem Visit.carry_step {k : Nat} {e : Event ι κ α} {env' : Surroundings} {s' : State ι κ α}
    {notes : List (Note ι κ α)} (hnext : s.next? v.caller v.ending = some e)
    (hs : step describe (v.surroundings env e) s e = some (env', s', notes)) :
    v.carry describe (k + 1) env s =
      (v.carry describe k env' s').map fun (s, more) => (s, notes ++ more) := by
  simp only [carry, hnext, hs]

theorem Visit.carry_done {k : Nat} (free : s.callers.get? v.caller = none) :
    v.carry describe k env s = some (s, []) := by
  cases k with
  | zero => rfl
  | succ k => simp only [carry, State.next?, free]

/-- A second look that finds nothing to serve and nothing to wait for starts a round. -/
theorem Transition.starts {caller : ι} {key : κ} {env' : Surroundings} {s' : State ι κ α}
    {notes : List (Note ι κ α)} (t : Transition describe env s (.decide caller) env' s' notes)
    (undecided : s.callers.get? caller = some (.undecided key))
    (ready : ∀ n, s.entries.get? key ≠ some (.inFlight n)) (idle : Idle env s key) :
    s' = s.startRound env.now caller key ∧ notes = [.missed key s.started] := by
  have looks : Looks s caller key (.decide caller) .secondLook := .second undecided
  cases t with
  | miss undecided' _ _ _ =>
    obtain ⟨-, rfl, -⟩ := looks.unique (.second undecided')
    exact ⟨rfl, rfl⟩
  | hit looks' entry valid =>
    obtain ⟨-, rfl, -⟩ := looks.unique looks'
    rw [idle.stale _ _ entry] at valid
    cases valid
  | join looks' entry _ =>
    obtain ⟨-, rfl, -⟩ := looks.unique looks'
    exact absurd entry (ready _)
  | promote undecided' entry _ _ =>
    obtain ⟨-, rfl, -⟩ := looks.unique (.second undecided')
    exact absurd entry (ready _)

variable (describe) in
/-- Where nothing can be served, a request starts a round, waits for it and settles it. -/
theorem Visit.carry_miss (undecided : s.callers.get? v.caller = some (.undecided v.key))
    (ready : ∀ n, s.entries.get? v.key ≠ some (.inFlight n)) (idle : Idle env s v.key) :
    ∃ s' notes, v.carry describe 3 env s = some (s', notes) ∧
      s'.entries = State.settleEntry (s.entries.insert v.key (.inFlight s.started)) v.key s.started
        (v.ending.outcome (describe v.key)) ∧
      s'.callers = (s.callers.insert v.caller (.awaiting v.key s.started)).erase v.caller ∧
      Reply.ofNotes notes = { calls := 1, answers := [v.ending.outcome (describe v.key)] } := by
  obtain ⟨⟨env', s₁, notes₁⟩, step₁⟩ :
      ∃ r, step describe env s (.decide v.caller) = some r := by
    simp [step, undecided]
  have next₁ : s.next? v.caller v.ending = some (.decide v.caller) := by
    simp [State.next?, undecided]
  obtain ⟨rfl, rfl⟩ := (step_transition step₁).starts undecided ready idle
  -- The round runs, and the caller is the one that waits for it.
  let s₁ := s.startRound env.now v.caller v.key
  have waits : s₁.callers.get? v.caller = some (.awaiting v.key s.started) :=
    Table.get?_insert_self _ _ _
  have round : s₁.rounds s.started =
      some { key := v.key, startedAt := env.now, outcome := none } := Round.store_self _ _ _
  have running : s₁.isRunning s.started = true := State.isRunning_iff.2 ⟨_, round, rfl⟩
  have awaited : s₁.isAwaited s.started = true := State.isAwaited_iff.2 ⟨_, _, waits⟩
  have next₂ : s₁.next? v.caller v.ending = some (.finish s.started v.ending) := by
    simp [State.next?, waits, running]
  let outcome := v.ending.outcome (describe v.key)
  let s₂ : State ι κ α :=
    { s₁ with
      rounds := Round.store s₁.rounds s.started
        { key := v.key, startedAt := env.now, outcome := some outcome } }
  have step₂ : step describe v.ended s₁ (.finish s.started v.ending) =
      some (v.ended, s₂, [.finished v.key s.started (v.ended.now - env.now) outcome]) := by
    simp [step, round, awaited, s₂, outcome]
  -- Now it has ended, and the caller settles it.
  have ended : s₂.outcome? s.started = some outcome :=
    State.outcome?_eq_some_iff.2 ⟨_, Round.store_self _ _ _, rfl⟩
  have next₃ : s₂.next? v.caller v.ending = some (.settle v.caller) := by
    have waits₂ : s₂.callers.get? v.caller = some (.awaiting v.key s.started) := waits
    have stopped : s₂.isRunning s.started = false := by simp [State.isRunning, s₂]
    simp [State.next?, waits₂, stopped]
  have step₃ : step describe v.ended s₂ (.settle v.caller) =
      some (v.ended, { s₂.leave v.caller with
          entries := State.settleEntry s₂.entries v.key s.started outcome },
        [.answered v.caller v.key s.started outcome]) := by
    have waits₂ : s₂.callers.get? v.caller = some (.awaiting v.key s.started) := waits
    simp [step, waits₂, ended]
  refine ⟨{ s₂.leave v.caller with
      entries := State.settleEntry s₂.entries v.key s.started outcome },
    [.missed v.key s.started, .finished v.key s.started (v.ended.now - env.now) outcome,
      .answered v.caller v.key s.started outcome], ?_, rfl, rfl, rfl⟩
  rw [Visit.carry_step next₁ step₁, Visit.carry_step next₂ step₂, Visit.carry_step next₃ step₃]
  rfl

theorem Holds.none_of_none (h : Holds s memo) {key : κ} (entry : s.entries.get? key = none) :
    memo.get? key = none := by
  rw [Table.get?_eq_none_iff, ← h.keys]
  exact Table.get?_eq_none_iff.1 entry

/-- After a request that called a fetch the cache holds its outcome, as the memo table does. -/
theorem Holds.record (h : Holds s memo) {s' : State ι κ α} {n : Nat} {key : κ}
    {outcome : Outcome (Resource α)}
    (steady : ∀ resource, outcome = .ok resource → resource.validity.isSteady = true)
    (entries : s'.entries = State.settleEntry (s.entries.insert key (.inFlight n)) key n outcome)
    (idle : ∀ c, s'.callers.get? c = none) : Holds s' (Memo.record memo key outcome) := by
  have inFlight : (s.entries.insert key (.inFlight n)).get? key = some (.inFlight n) :=
    Table.get?_insert_self _ _ _
  cases outcome with
  | ok resource =>
    rw [State.settleEntry_ok inFlight] at entries
    refine ⟨idle, ?_, fun key' slot hslot => ?_, fun key' stored hstored => ?_⟩
    · rw [entries, Memo.record, Table.keys_insert, Table.keys_insert, Table.keys_insert, h.keys]
      by_cases there : key ∈ memo.keys <;> simp [there]
    · rw [entries] at hslot
      rcases Table.get?_of_get?_insert hslot with ⟨rfl, rfl⟩ | ⟨hne, before⟩
      · exact ⟨n, resource, rfl, Table.get?_insert_self _ _ _⟩
      · rw [Table.get?_insert_of_ne hne] at before
        obtain ⟨m, stored, hslot, hstored⟩ := h.ready key' slot before
        exact ⟨m, stored, hslot, (Table.get?_insert_of_ne hne).trans hstored⟩
    · rcases Table.get?_of_get?_insert hstored with ⟨rfl, rfl⟩ | ⟨-, before⟩
      · exact steady resource rfl
      · exact h.steady key' stored before
  | error e =>
    rw [State.settleEntry_error inFlight] at entries
    refine ⟨idle, ?_, fun key' slot hslot => ?_, fun key' stored hstored => ?_⟩
    · rw [entries, Memo.record, Table.keys_erase, Table.keys_erase, Table.keys_insert, h.keys]
      by_cases there : key ∈ memo.keys <;> simp [there]
    · rw [entries] at hslot
      obtain ⟨hne, before⟩ := Table.get?_of_get?_erase hslot
      rw [Table.get?_insert_of_ne hne] at before
      obtain ⟨m, stored, hslot, hstored⟩ := h.ready key' slot before
      exact ⟨m, stored, hslot, (Table.get?_erase_of_ne hne).trans hstored⟩
    · exact h.steady key' stored (Table.get?_of_get?_erase hstored).2

variable (describe) in
/-- A request to a cache that holds a memo table is answered as that table answers it. -/
theorem Visit.serve_eq (h : Holds s memo) (steady : v.ending.isSteady = true) :
    ∃ s', v.serve describe s = some (s', (Memo.serve describe v memo).2) ∧
      Holds s' (Memo.serve describe v memo).1 := by
  have free := h.idle v.caller
  obtain ⟨⟨env, s₁, notes⟩, hs⟩ :
      ∃ r, step describe v.asked s (.look v.caller v.key) = some r := by
    simp [step, free]
  have t := step_transition hs
  simp only [Visit.serve, hs]
  cases t with
  | @hit _ _ _ _ _ resource looks entry valid =>
    cases looks
    obtain ⟨_, _, hslot, stored⟩ := h.ready _ _ entry
    cases hslot
    have served : Memo.serve describe v memo =
        (memo, { calls := 0, answers := [.ok resource] }) := by
      simp only [Memo.serve, stored, Option.filter_some, valid, if_true]
    rw [served, State.leave_eq_self free, Visit.carry_done free]
    exact ⟨s, rfl, h⟩
  | join looks entry _ =>
    cases looks
    obtain ⟨n, resource, hslot, -⟩ := h.ready _ _ entry
    cases hslot
  | defer _ idle ev =>
    -- What is stored is no more valid at the second look than it was at the first.
    have stale : ((memo.get? v.key).filter fun resource => (resource.validity.check v.asked).1) =
        none := by
      cases entry : s.entries.get? v.key with
      | none => rw [h.none_of_none entry]; rfl
      | some slot =>
        obtain ⟨n, resource, rfl, stored⟩ := h.ready _ _ entry
        rw [stored, Option.filter_some, idle.stale n resource entry]
        rfl
    have served : Memo.serve describe v memo =
        (Memo.record memo v.key (v.ending.outcome (describe v.key)),
          { calls := 1, answers := [v.ending.outcome (describe v.key)] }) := by
      simp only [Memo.serve, stale]
    have ready : ∀ n, s.entries.get? v.key ≠ some (.inFlight n) := by
      intro n entry
      obtain ⟨_, _, hslot, -⟩ := h.ready _ _ entry
      cases hslot
    have idle' : Idle env s v.key := by
      refine ⟨fun n resource entry => ?_, fun n entry => absurd entry (ready n)⟩
      obtain ⟨_, _, hslot, stored⟩ := h.ready _ _ entry
      cases hslot
      rw [ev.check_steady (h.steady _ _ stored)]
      exact idle.stale n resource entry
    let waiting : State ι κ α :=
      { s with callers := s.callers.insert v.caller (.undecided v.key) }
    have undecided : waiting.callers.get? v.caller = some (.undecided v.key) :=
      Table.get?_insert_self _ _ _
    obtain ⟨s', notes, hcarry, entries, callers, reply⟩ :=
      Visit.carry_miss describe undecided ready ⟨idle'.stale, idle'.ended⟩
    rw [hcarry, served]
    refine ⟨s', by simp [reply], h.record (fun resource ok => ?_) entries fun c => ?_⟩
    · exact Ending.isSteady_of_outcome steady ok
    · rw [callers, Table.get?_erase, Table.get?_insert, Table.get?_insert, h.idle]
      by_cases same : v.caller = c <;> simp [same]

end Visit

/-! ## All requests -/

section Sequence

variable {describe : κ → String} {visits : List (Visit ι κ α)} {s : State ι κ α} {memo : Memo κ α}

variable (describe) in
theorem serveAll_eq (h : Holds s memo) (steady : ∀ v ∈ visits, v.ending.isSteady = true) :
    ∃ s', serveAll describe visits s = some (s', (Memo.serveAll describe visits memo).2) ∧
      Holds s' (Memo.serveAll describe visits memo).1 := by
  induction visits generalizing s memo with
  | nil => exact ⟨s, rfl, h⟩
  | cons v visits ih =>
    obtain ⟨s₁, first, h₁⟩ :=
      Visit.serve_eq describe h (steady v (List.mem_cons_self ..))
    obtain ⟨s₂, rest, h₂⟩ := ih h₁ fun v' hv' => steady v' (List.mem_cons_of_mem _ hv')
    exact ⟨s₂, by simp only [serveAll, first, rest]; rfl, h₂⟩

/-- Used by one caller after another, a cache answers as a memo table does.  Where a resource is
stored for the key and is valid the request is told that resource and calls no fetch; otherwise it
calls one fetch and is told its outcome.  Each fetched resource is stored, whether it is valid or
not, and a failure leaves nothing stored.  The size of the cache is the number of stored keys. -/
theorem serveAll_eq_memo (describe : κ → String) (visits : List (Visit ι κ α))
    (steady : ∀ v ∈ visits, v.ending.isSteady = true) :
    ∃ s, serveAll describe visits State.empty =
        some (s, (Memo.serveAll describe visits Table.empty).2) ∧
      s.size = (Memo.serveAll describe visits Table.empty).1.size ∧
      ∀ key resource, (∃ n, s.entries.get? key = some (.ready n resource)) ↔
        (Memo.serveAll describe visits Table.empty).1.get? key = some resource := by
  have empty : Holds (State.empty : State ι κ α) Table.empty :=
    ⟨fun _ => rfl, rfl, nofun, nofun⟩
  obtain ⟨s, served, h⟩ := serveAll_eq describe empty steady
  refine ⟨s, served, ?_, fun key resource => ⟨fun ⟨n, entry⟩ => ?_, fun stored => ?_⟩⟩
  · rw [State.size, Table.size_eq_length_keys, h.keys, Table.size_eq_length_keys]
  · obtain ⟨_, _, hslot, stored⟩ := h.ready key _ entry
    cases hslot
    exact stored
  · cases entry : s.entries.get? key with
    | none =>
      rw [h.none_of_none entry] at stored
      cases stored
    | some slot =>
      obtain ⟨n, resource', rfl, stored'⟩ := h.ready key slot entry
      obtain rfl : resource = resource' := Option.some.inj (stored.symm.trans stored')
      exact ⟨n, rfl⟩

/-- A resource that has expired when it arrives is told and stored, and at the next request another
one is fetched, which is then served.  A failure for another key leaves nothing stored. -/
theorem serveAll_eq_memo_expired :
    ∃ expired lasting : Resource Nat, ∃ e : ResourceError, ∃ visits : List (Visit Nat Nat Nat),
      (∀ v ∈ visits, v.ending.isSteady = true) ∧
      ∃ s, serveAll (fun _ => "") visits State.empty =
          some (s, [{ calls := 1, answers := [.ok expired] },
            { calls := 1, answers := [.ok lasting] },
            { calls := 0, answers := [.ok lasting] }, { calls := 1, answers := [.error e] }]) ∧
        s.size = 1 ∧ ∃ n, s.entries.get? 7 = some (.ready n lasting) := by
  let expired : Resource Nat :=
    { value := 1, object := 0, validity := .expiresAt 5, sensitive := false }
  let lasting : Resource Nat :=
    { value := 2, object := 1, validity := .permanent, sensitive := false }
  let late := Surroundings.start.pass 6
  let visit (key : Nat) (ending : Ending (Resource Nat)) : Visit Nat Nat Nat :=
    { caller := 0, key := key, asked := late, ended := late, ending := ending }
  let visits := [visit 7 (.returned (.ok expired)), visit 7 (.returned (.ok lasting)),
    visit 7 (.panicked ""), visit 8 (.panicked "")]
  have steady : ∀ v ∈ visits, v.ending.isSteady = true := by decide
  obtain ⟨s, served, size, stored⟩ := serveAll_eq_memo (fun _ => "") visits steady
  exact ⟨expired, lasting, _, visits, steady, s, served, size, (stored 7 lasting).2 rfl⟩

end Sequence
end Cache
end SingleFlight
