import SingleFlight.Proofs.Cache.Transition
import SingleFlight.Proofs.Run

/-!
Rounds, and what the table says of them.

`Coherent` is the invariant of the keyed cache: a round that runs is the one that the entry of its
key says is in flight, and every entry and every caller that waits refer to a round of their key.
Every transition keeps it, because an entry is replaced only where no round of its key runs.

From it follows that fetches of one key never overlap: `running_round_exclusive`.
-/

namespace SingleFlight
namespace Cache

variable {ι κ α : Type}

/-- The first round may have become the second: its key and its start stay, and so does an outcome
once there is one. -/
structure Round.Grows (r r' : Round κ α) : Prop where
  key : r'.key = r.key
  startedAt : r'.startedAt = r.startedAt
  outcome : ∀ o, r.outcome = some o → r'.outcome = some o

theorem Round.Grows.refl (r : Round κ α) : r.Grows r := ⟨rfl, rfl, fun _ h => h⟩

theorem Round.Grows.trans {r₁ r₂ r₃ : Round κ α} (h : r₁.Grows r₂) (h' : r₂.Grows r₃) :
    r₁.Grows r₃ :=
  ⟨h'.key.trans h.key, h'.startedAt.trans h.startedAt, fun o ho => h'.outcome o (h.outcome o ho)⟩

variable [DecidableEq ι] [DecidableEq κ]

/-- The table, the rounds and the callers fit together. -/
structure Coherent (s : State ι κ α) : Prop where
  numbered : ∀ n, (s.rounds n).isSome = true ↔ n < s.started
  running : ∀ key n, s.Running key n → s.entries.get? key = some (.inFlight n)
  inFlight : ∀ key n, s.entries.get? key = some (.inFlight n) → s.Known key n
  ready : ∀ key n resource, s.entries.get? key = some (.ready n resource) →
    ∃ r, s.rounds n = some r ∧ r.key = key ∧ r.outcome = some (.ok resource)
  awaited : ∀ c key n, s.callers.get? c = some (.awaiting key n) → s.Known key n

namespace Coherent

variable {s : State ι κ α} {key : κ} {m n : Nat}

theorem empty : Coherent (State.empty : State ι κ α) where
  numbered n := by simp [State.empty]
  running key n h := by
    obtain ⟨r, hr, -⟩ := h
    cases hr
  inFlight key n h := by cases h
  ready key n resource h := by cases h
  awaited c key n h := by cases h

theorem rounds_started (h : Coherent s) : s.rounds s.started = none := by
  have hn := h.numbered s.started
  cases hr : s.rounds s.started with
  | none => rfl
  | some r => simp [hr] at hn

theorem lt_started (h : Coherent s) {r : Round κ α} (hr : s.rounds n = some r) :
    n < s.started :=
  (h.numbered n).1 (by rw [hr]; rfl)

theorem running_unique (h : Coherent s) (hm : s.Running key m) (hn : s.Running key n) : m = n := by
  have e := (h.running key m hm).symm.trans (h.running key n hn)
  simpa using e

/-- While an ended round lies unsettled no round of its key runs. -/
theorem not_running_of_ended (h : Coherent s) {o : Outcome (Resource α)}
    (entry : s.entries.get? key = some (.inFlight n)) (ended : s.outcome? n = some o) (m : Nat) :
    ¬ s.Running key m := by
  intro hm
  have e := entry.symm.trans (h.running key m hm)
  obtain rfl : n = m := by simpa using e
  rw [State.outcome?_of_isRunning hm.isRunning] at ended
  cases ended

theorem not_running_of_idle (h : Coherent s) {env : Surroundings} (idle : Idle env s key) (m : Nat) :
    ¬ s.Running key m := by
  intro hm
  have hf := idle.ended m (h.running key m hm)
  rw [hm.isRunning] at hf
  cases hf

/-! ## What keeps it -/

theorem with_callers (h : Coherent s) {callers : Table ι (Stage κ)}
    (awaited : ∀ c key n, callers.get? c = some (.awaiting key n) → s.Known key n) :
    Coherent { s with callers := callers } :=
  ⟨h.numbered, h.running, h.inFlight, h.ready, awaited⟩

theorem leave (h : Coherent s) (c : ι) : Coherent (s.leave c) :=
  h.with_callers fun c' key n hc => h.awaited c' key n (State.get?_of_get?_leave hc).2

theorem await (h : Coherent s) (c : ι) (entry : s.entries.get? key = some (.inFlight n)) :
    Coherent (s.await c key n) := by
  refine h.with_callers fun c' key' m hc => ?_
  rcases Table.get?_of_get?_insert hc with ⟨-, hstage⟩ | ⟨-, before⟩
  · obtain ⟨rfl, rfl⟩ : key = key' ∧ n = m := by simpa using hstage
    exact h.inFlight key n entry
  · exact h.awaited c' key' m before

/-- Where no round of the key runs its entry may go, or be that of a round of the key that ended
well. -/
theorem replace_entry (h : Coherent s) {entries : Table κ (Slot α)}
    (free : ∀ m, ¬ s.Running key m)
    (others : ∀ key', key ≠ key' → entries.get? key' = s.entries.get? key')
    (new : ∀ slot, entries.get? key = some slot → ∃ n resource r, slot = .ready n resource ∧
      s.rounds n = some r ∧ r.key = key ∧ r.outcome = some (.ok resource)) :
    Coherent { s with entries := entries } where
  numbered := h.numbered
  -- A round that runs is of another key, whose entry is untouched.
  running key' m hm := by
    have hne : key ≠ key' := by
      rintro rfl
      exact free m hm
    exact (others key' hne).trans (h.running key' m hm)
  inFlight key' m he := by
    by_cases hk : key = key'
    · subst hk
      obtain ⟨_, _, _, hs, -⟩ := new _ he
      cases hs
    · exact h.inFlight key' m ((others key' hk).symm.trans he)
  ready key' m resource he := by
    by_cases hk : key = key'
    · subst hk
      obtain ⟨n, resource', r, hs, hr⟩ := new _ he
      obtain ⟨rfl, rfl⟩ : m = n ∧ resource = resource' := by simpa using hs
      exact ⟨r, hr⟩
    · exact h.ready key' m resource ((others key' hk).symm.trans he)
  awaited := h.awaited

theorem store (h : Coherent s) {resource : Resource α}
    (entry : s.entries.get? key = some (.inFlight n))
    (ended : s.outcome? n = some (.ok resource)) :
    Coherent { s with entries := s.entries.insert key (.ready n resource) } := by
  refine h.replace_entry (h.not_running_of_ended entry ended)
    (fun key' hk => Table.get?_insert_of_ne hk) fun slot hs => ?_
  rw [Table.get?_insert_self] at hs
  obtain ⟨r, hr⟩ := (h.inFlight key n entry).ended ended
  exact ⟨n, resource, r, by simpa using hs.symm, hr⟩

theorem settleEntry (h : Coherent s) {o : Outcome (Resource α)} (ended : s.outcome? n = some o) :
    Coherent { s with entries := State.settleEntry s.entries key n o } := by
  by_cases entry : s.entries.get? key = some (.inFlight n)
  · cases o with
    | ok resource =>
      rw [State.settleEntry_ok entry]
      exact h.store entry ended
    | error e =>
      rw [State.settleEntry_error entry]
      refine h.replace_entry (h.not_running_of_ended entry ended)
        (fun key' hk => Table.get?_erase_of_ne hk) fun slot hs => ?_
      rw [Table.get?_erase_self] at hs
      cases hs
  · rw [State.settleEntry_eq_self entry]
    exact h

/-! ## Rounds that start and end -/

omit [DecidableEq ι] [DecidableEq κ] in
theorem grows_finish {r r' : Round κ α} (hr : s.rounds n = some r) (ho : r.outcome = none)
    (o : Outcome (Resource α)) (hr' : s.rounds m = some r') :
    ∃ r'', Round.store s.rounds n { r with outcome := some o } m = some r'' ∧ r'.Grows r'' := by
  by_cases hm : m = n
  · subst hm
    obtain rfl : r = r' := by simpa using hr.symm.trans hr'
    exact ⟨_, Round.store_self _ _ _, rfl, rfl, by simp [ho]⟩
  · exact ⟨r', by rw [Round.store_of_ne _ _ hm, hr'], .refl r'⟩

theorem rounds_startRound (h : Coherent s) (now : Nat) (c : ι) (key : κ) {r : Round κ α}
    (hr : s.rounds m = some r) : (s.startRound now c key).rounds m = some r := by
  change Round.store s.rounds s.started _ m = some r
  rw [Round.store_of_ne _ _ (Nat.ne_of_lt (h.lt_started hr)), hr]

theorem startRound (h : Coherent s) (now : Nat) (c : ι) (free : ∀ m, ¬ s.Running key m) :
    Coherent (s.startRound now c key) where
  numbered m := by
    have hn := h.numbered m
    by_cases hm : m = s.started
    · subst hm
      simp [State.startRound]
    · simp only [State.startRound, Round.store_of_ne _ _ hm, hn]
      omega
  running key' m hm := by
    obtain ⟨r, hr, hkey, ho⟩ := hm
    by_cases hs : m = s.started
    · subst hs
      obtain rfl : _ = r := by simpa [State.startRound] using hr
      obtain rfl : key = key' := hkey
      exact Table.get?_insert_self _ _ _
    · have hr' : s.rounds m = some r := by
        simpa only [State.startRound, Round.store_of_ne _ _ hs] using hr
      have hne : key ≠ key' := by
        rintro rfl
        exact free m ⟨r, hr', hkey, ho⟩
      exact (Table.get?_insert_of_ne hne).trans (h.running key' m ⟨r, hr', hkey, ho⟩)
  inFlight key' m he := by
    rcases Table.get?_of_get?_insert he with ⟨hkey, hslot⟩ | ⟨-, before⟩
    · obtain rfl : s.started = m := by simpa using hslot
      exact ⟨_, Round.store_self _ _ _, hkey⟩
    · obtain ⟨r, hr, hkey⟩ := h.inFlight key' m before
      exact ⟨r, h.rounds_startRound now c key hr, hkey⟩
  ready key' m resource he := by
    rcases Table.get?_of_get?_insert he with ⟨-, hslot⟩ | ⟨-, before⟩
    · cases hslot
    · obtain ⟨r, hr, hkey, ho⟩ := h.ready key' m resource before
      exact ⟨r, h.rounds_startRound now c key hr, hkey, ho⟩
  awaited c' key' m hc := by
    rcases Table.get?_of_get?_insert hc with ⟨-, hstage⟩ | ⟨-, before⟩
    · obtain ⟨rfl, rfl⟩ : key = key' ∧ s.started = m := by simpa using hstage
      exact ⟨_, Round.store_self _ _ _, rfl⟩
    · obtain ⟨r, hr, hkey⟩ := h.awaited c' key' m before
      exact ⟨r, h.rounds_startRound now c key hr, hkey⟩

theorem finish (h : Coherent s) {r : Round κ α} (hr : s.rounds n = some r) (ho : r.outcome = none)
    (o : Outcome (Resource α)) :
    Coherent { s with rounds := Round.store s.rounds n { r with outcome := some o } } where
  numbered m := by
    by_cases hm : m = n
    · subst hm
      have hlt := h.lt_started hr
      simpa using hlt
    · simpa only [Round.store_of_ne _ _ hm] using h.numbered m
  running key m hm := by
    obtain ⟨r', hr', hkey, ho'⟩ := hm
    by_cases hmn : m = n
    · subst hmn
      obtain rfl : _ = r' := by simpa using hr'
      cases ho'
    · refine h.running key m ⟨r', ?_, hkey, ho'⟩
      simpa only [Round.store_of_ne _ _ hmn] using hr'
  inFlight key m he := by
    obtain ⟨r', hr', hkey⟩ := h.inFlight key m he
    obtain ⟨r'', hr'', grows⟩ := grows_finish hr ho o hr'
    exact ⟨r'', hr'', grows.key.trans hkey⟩
  ready key m resource he := by
    obtain ⟨r', hr', hkey, ho'⟩ := h.ready key m resource he
    obtain ⟨r'', hr'', grows⟩ := grows_finish hr ho o hr'
    exact ⟨r'', hr'', grows.key.trans hkey, grows.outcome _ ho'⟩
  awaited c key m hc := by
    obtain ⟨r', hr', hkey⟩ := h.awaited c key m hc
    obtain ⟨r'', hr'', grows⟩ := grows_finish hr ho o hr'
    exact ⟨r'', hr'', grows.key.trans hkey⟩

end Coherent

/-! ## What a step does to rounds -/

section Step

variable {describe : κ → String} {env env' : Surroundings} {s s' : State ι κ α}
  {e : Event ι κ α} {notes : List (Note ι κ α)} {key : κ} {n : Nat}

theorem Transition.coherent (t : Transition describe env s e env' s' notes) (h : Coherent s) :
    Coherent s' := by
  cases t with
  | hit _ _ _ => exact h.leave _
  | join _ entry _ => exact h.await _ entry
  | @defer caller key _ _ _ _ =>
    refine h.with_callers fun c key' n hc => ?_
    rcases Table.get?_of_get?_insert hc with ⟨-, hstage⟩ | ⟨-, before⟩
    · cases hstage
    · exact h.awaited c key' n before
  | promote _ entry ended _ => exact (h.leave _).store entry ended
  | miss _ idle _ _ => exact h.startRound _ _ (h.not_running_of_idle idle)
  | finish hr ho _ => exact h.finish hr ho _
  | settle _ ended => exact (h.leave _).settleEntry ended
  | drop _ => exact h.leave _

theorem Transition.rounds_grow (t : Transition describe env s e env' s' notes) (h : Coherent s)
    {r : Round κ α} (hr : s.rounds n = some r) : ∃ r', s'.rounds n = some r' ∧ r.Grows r' := by
  cases t with
  | miss _ _ _ _ => exact ⟨r, h.rounds_startRound _ _ _ hr, .refl r⟩
  | finish hr' ho _ => exact Coherent.grows_finish hr' ho _ hr
  | hit _ _ _ | join _ _ _ | defer _ _ _ | promote _ _ _ _ | settle _ _ | drop _ =>
    exact ⟨r, hr, .refl r⟩

theorem Transition.outcome?_stays (t : Transition describe env s e env' s' notes)
    (h : Coherent s) {o : Outcome (Resource α)} (ho : s.outcome? n = some o) :
    s'.outcome? n = some o := by
  obtain ⟨r, hr, hro⟩ := State.outcome?_eq_some_iff.1 ho
  obtain ⟨r', hr', grows⟩ := t.rounds_grow h hr
  exact State.outcome?_eq_some_iff.2 ⟨r', hr', grows.outcome o hro⟩

/-- A round ends when its fetch does. -/
theorem Transition.outcome?_cases (t : Transition describe env s e env' s' notes)
    {o : Outcome (Resource α)} (ho : s'.outcome? n = some o) :
    s.outcome? n = some o ∨
      ∃ r ending, e = .finish n ending ∧ s.rounds n = some r ∧
        o = ending.outcome (describe r.key) := by
  cases t with
  | hit _ _ _ | join _ _ _ | defer _ _ _ | promote _ _ _ _ | settle _ _ | drop _ => exact .inl ho
  | miss _ _ _ _ =>
    obtain ⟨r, hr, hro⟩ := State.outcome?_eq_some_iff.1 ho
    by_cases hn : n = s.started
    · subst hn
      obtain rfl : _ = r := by simpa [State.startRound] using hr
      cases hro
    · refine .inl (State.outcome?_eq_some_iff.2 ⟨r, ?_, hro⟩)
      simpa only [State.startRound, Round.store_of_ne _ _ hn] using hr
  | @finish m r ending hr _ _ =>
    obtain ⟨r', hr', hro⟩ := State.outcome?_eq_some_iff.1 ho
    by_cases hn : n = m
    · subst hn
      obtain rfl : _ = r' := by simpa using hr'
      exact .inr ⟨r, ending, rfl, hr, (Option.some.inj hro).symm⟩
    · refine .inl (State.outcome?_eq_some_iff.2 ⟨r', ?_, hro⟩)
      simpa only [Round.store_of_ne _ _ hn] using hr'

/-- While a round runs nothing happens to the entry of its key. -/
theorem Transition.entry_of_running (t : Transition describe env s e env' s' notes)
    (h : Coherent s) (hn : s.Running key n) : s'.entries.get? key = s.entries.get? key := by
  cases t with
  | hit _ _ _ | join _ _ _ | defer _ _ _ | finish _ _ _ | drop _ => rfl
  | @promote caller key' n' _ _ entry ended _ =>
    refine Table.get?_insert_of_ne ?_
    rintro rfl
    exact h.not_running_of_ended entry ended n hn
  | @miss caller key' _ _ idle _ _ =>
    refine Table.get?_insert_of_ne ?_
    rintro rfl
    exact h.not_running_of_idle idle n hn
  | @settle caller key' n' o _ ended =>
    by_cases hk : key' = key
    · subst hk
      have hne : s.entries.get? key' ≠ some (.inFlight n') :=
        fun entry => h.not_running_of_ended entry ended n hn
      exact congrArg (Table.get? · key') (State.settleEntry_eq_self hne)
    · exact State.get?_settleEntry_of_ne hk

/-- The fetch of a round is called where no round of its key runs, and then it runs. -/
theorem Transition.missed (t : Transition describe env s e env' s' notes) (h : Coherent s)
    (hm : .missed key n ∈ notes) : (∀ m, ¬ s.Running key m) ∧ s'.Running key n := by
  cases t with
  | @miss caller key' _ _ idle _ _ =>
    obtain ⟨rfl, rfl⟩ : key = key' ∧ n = s.started := by simpa using hm
    exact ⟨h.not_running_of_idle idle, _, Round.store_self _ _ _, rfl, rfl⟩
  | hit _ _ _ | join _ _ _ | defer _ _ _ | promote _ _ _ _ | finish _ _ _ | settle _ _ | drop _ =>
    simp at hm

theorem Transition.missed_started (t : Transition describe env s e env' s' notes)
    (hm : .missed key n ∈ notes) : n = s.started := by
  cases t with
  | miss _ _ _ _ => simpa using (show _ ∧ n = s.started by simpa using hm).2
  | hit _ _ _ | join _ _ _ | defer _ _ _ | promote _ _ _ _ | finish _ _ _ | settle _ _ | drop _ =>
    simp at hm

end Step

/-! ## Runs -/

/-- A cache, in surroundings that change as `world` allows. -/
def system (describe : κ → String)
    (world : Surroundings → State ι κ α → Surroundings → Prop) :
    System (State ι κ α) (Event ι κ α) (Note ι κ α) :=
  { start := State.empty, step := step describe, world := world }

/-- The round whose fetch is called, if a note tells of one. -/
def Note.called? : Note ι κ α → Option Nat
  | missed _ n => some n
  | _ => none

/-- The rounds whose fetches are called on the way, in order. -/
def called (moves : List (Move (State ι κ α) (Event ι κ α) (Note ι κ α))) : List Nat :=
  moves.flatMap fun m => m.notes.filterMap Note.called?

variable {describe : κ → String} {world : Surroundings → State ι κ α → Surroundings → Prop}
  {moves : List (Move (State ι κ α) (Event ι κ α) (Note ι κ α))} {env env₀ : Surroundings}
  {s s₀ : State ι κ α}

theorem path_coherent (path : (system describe world).Path env₀ s₀ moves env s)
    (h : Coherent s₀) : Coherent s :=
  path.keeps (P := fun _ s => Coherent s) (fun h _ => h)
    (fun h hs => (step_transition hs).coherent h) h

theorem run_coherent (run : (system describe world).Run moves env s) : Coherent s :=
  path_coherent run.choose_spec .empty

theorem Transition.called {env' : Surroundings} {s' : State ι κ α} {e : Event ι κ α}
    {notes : List (Note ι κ α)} (t : Transition describe env s e env' s' notes) :
    (notes.filterMap Note.called? = [] ∧ s'.started = s.started) ∨
      (notes.filterMap Note.called? = [s.started] ∧ s'.started = s.started + 1) := by
  cases t with
  | miss _ _ _ _ => exact .inr ⟨rfl, rfl⟩
  | hit _ _ _ | join _ _ _ | defer _ _ _ | promote _ _ _ _ | finish _ _ _ | settle _ _ | drop _ =>
    exact .inl ⟨rfl, rfl⟩

/-- The fetches of the rounds are called in the order of their numbers, and each once. -/
theorem called_eq_range (path : (system describe world).Path env₀ State.empty moves env s) :
    called moves = List.range s.started := by
  induction path with
  | nil => rfl
  | wait _ _ ih => exact ih
  | @move moves _ _ _ s' _ notes _ hs ih =>
    have happend : ∀ m, called (moves ++ [m]) = called moves ++ m.notes.filterMap Note.called? := by
      intro m
      simp [called]
    rw [happend, ih]
    rcases (step_transition hs).called with ⟨hnone, hsame⟩ | ⟨hone, hnext⟩
    · rw [hsame]
      simp [hnone]
    · rw [hnext, List.range_succ]
      simp [hone]

/-- Fetches of one key never overlap.  Wherever a run leads, a round that runs is the only one of
its key that does, and the table holds it for as long as it runs.  So the fetch of a round is called
when no other of its key runs, and it is called once. -/
theorem running_round_exclusive (run : (system describe world).Run moves env s) :
    (∀ key n, s.Running key n →
      s.entries.get? key = some (.inFlight n) ∧ ∀ m, s.Running key m → m = n) ∧
    (∀ m ∈ moves, ∀ key n, m.before.Running key n →
      m.before.entries.get? key = some (.inFlight n) ∧
      m.after.entries.get? key = some (.inFlight n)) ∧
    (∀ m ∈ moves, ∀ key n, .missed key n ∈ m.notes →
      (∀ k, ¬ m.before.Running key k) ∧ m.after.Running key n) ∧
    (called moves).Nodup ∧ ∀ n, n ∈ called moves ↔ (s.rounds n).isSome = true := by
  have coherent := run_coherent run
  refine ⟨fun key n hn => ⟨coherent.running key n hn, fun m hm => coherent.running_unique hm hn⟩,
    fun m hm key n hn => ?_, fun m hm key n hmissed => ?_, ?_, fun n => ?_⟩
  · obtain ⟨_, _, _, _, first, hs, _⟩ := run.cut_of_mem hm
    have hbefore := (run_coherent first).running key n hn
    exact ⟨hbefore, ((step_transition hs).entry_of_running (run_coherent first) hn).trans hbefore⟩
  · obtain ⟨_, _, _, _, first, hs, _⟩ := run.cut_of_mem hm
    exact (step_transition hs).missed (run_coherent first) hmissed
  · rw [called_eq_range run.choose_spec]
    exact List.nodup_range
  · rw [called_eq_range run.choose_spec, List.mem_range]
    exact (coherent.numbered n).symm

/-- Two callers find nothing, the second joins the round of the first, and the first goes away. -/
theorem running_round_exclusive_abandoned :
    ∃ moves env, ∃ s : State Nat Nat Nat,
      (system (fun _ => "") fun _ _ _ => True).Run moves env s ∧ s.Running 7 0 ∧
      called moves = [0] ∧ s.entries.get? 7 = some (.inFlight 0) ∧ ∀ m, s.Running 7 m → m = 0 := by
  have run : (system (fun _ => "") fun _ _ _ => True : System (State Nat Nat Nat) _ _).Run _ _ _ :=
    ⟨.start, .of_replay [.look 0 7, .look 1 7, .decide 0, .decide 1, .drop 0] rfl⟩
  exact ⟨_, _, _, run, ⟨_, rfl, rfl, rfl⟩, rfl,
    (running_round_exclusive run).1 7 0 ⟨_, rfl, rfl, rfl⟩⟩

end Cache
end SingleFlight
