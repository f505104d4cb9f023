import SingleFlight.Proofs.Cache.Origins

/-!
What a step comes to for one caller.

Whoever is at work has an event that carries its request on (`State.next?`), and that event can
happen.  `Opening` says what a first look comes to for the caller that takes it, and `Course` what
any step comes to for a caller at work; most steps leave it where it is.  `State.toGo` counts the
events that are still to come, and no step puts an answer off (`Transition.toGo`).
-/

namespace SingleFlight
namespace Cache

variable {ι κ α : Type} [DecidableEq ι]

namespace State

/-- The event that carries the request of a caller on.  If that is the end of the fetch that it
waits for, `ending` is how the fetch ends. -/
def next? (s : State ι κ α) (caller : ι) (ending : Ending (Resource α)) : Option (Event ι κ α) :=
  match s.callers.get? caller with
  | none => none
  | some (.undecided _) => some (.decide caller)
  | some (.awaiting _ n) => some (if s.isRunning n then .finish n ending else .settle caller)

/-- How many more events carry the request of a caller to its answer, at most. -/
def toGo (s : State ι κ α) (caller : ι) : Nat :=
  match s.callers.get? caller with
  | none => 0
  | some (.undecided _) => 3
  | some (.awaiting _ n) => if s.isRunning n then 2 else 1

/-- Whether the event carries the request of a caller on: its looks, its settling, and the end of
the fetch that it waits for. -/
def carries (s : State ι κ α) (caller : ι) : Event ι κ α → Bool
  | .look c _ => c == caller
  | .decide c => c == caller
  | .settle c => c == caller
  | .finish n _ =>
    match s.callers.get? caller with
    | some (.awaiting _ m) => m == n
    | _ => false
  | .drop _ => false

end State

/-- Whose move the event is, if it is that of a caller. -/
def Event.caller? : Event ι κ α → Option ι
  | .look c _ => some c
  | .decide c => some c
  | .settle c => some c
  | .drop c => some c
  | .finish _ _ => none

variable [DecidableEq κ]

/-! ## What can happen next -/

section Step

variable {describe : κ → String} {env env' : Surroundings} {s s' : State ι κ α}
  {e : Event ι κ α} {notes : List (Note ι κ α)} {caller : ι} {key : κ} {n : Nat} {stage : Stage κ}

omit [DecidableEq ι] [DecidableEq κ] in
theorem State.Known.running_or_ended (h : s.Known key n) :
    s.isRunning n = true ∨ s.isRunning n = false ∧ ∃ o, s.outcome? n = some o := by
  obtain ⟨r, hr, -⟩ := h
  cases ho : r.outcome with
  | none => exact .inl (State.isRunning_iff.2 ⟨r, hr, ho⟩)
  | some o => exact .inr ⟨by simp [State.isRunning, hr, ho], o, by simp [State.outcome?, hr, ho]⟩

omit [DecidableEq ι] [DecidableEq κ] in
theorem State.Known.running_of_unfinished (h : s.Known key n) (unfinished : s.outcome? n = none) :
    s.Running key n := by
  rcases h.running_or_ended with running | ⟨-, o, ended⟩
  · exact h.running running
  · rw [unfinished] at ended
    cases ended

omit [DecidableEq ι] [DecidableEq κ] in
theorem State.Running.known (h : s.Running key n) : s.Known key n := by
  obtain ⟨r, hr, hkey, -⟩ := h
  exact ⟨r, hr, hkey⟩

/-- Whoever is at work can be carried on. -/
theorem Coherent.next_enabled (h : Coherent s) (hc : s.callers.get? caller = some stage)
    (describe : κ → String) (env : Surroundings) (ending : Ending (Resource α)) :
    ∃ e, s.next? caller ending = some e ∧ (step describe env s e).isSome = true := by
  cases stage with
  | undecided key => exact ⟨.decide caller, by simp [State.next?, hc], by simp [step, hc]⟩
  | awaiting key n =>
    have known := h.awaited caller key n hc
    rcases known.running_or_ended with running | ⟨ended, o, ho⟩
    · refine ⟨.finish n ending, by simp [State.next?, hc, running], ?_⟩
      obtain ⟨r, hr, -, unfinished⟩ := known.running running
      have awaited : s.isAwaited n = true := State.isAwaited_iff.2 ⟨caller, key, hc⟩
      simp [step, hr, unfinished, awaited]
    · exact ⟨.settle caller, by simp [State.next?, hc, ended], by simp [step, hc, ho]⟩

omit [DecidableEq κ] in
theorem State.carries_next {ending : Ending (Resource α)} (h : s.next? caller ending = some e) :
    s.carries caller e = true := by
  unfold State.next? at h
  cases hc : s.callers.get? caller with
  | none => simp [hc] at h
  | some stage =>
    cases stage with
    | undecided key =>
      obtain rfl : Event.decide caller = e := by simpa [hc] using h
      simp [State.carries]
    | awaiting key n =>
      by_cases running : s.isRunning n = true
      · obtain rfl : Event.finish n ending = e := by simpa [hc, running] using h
        simp [State.carries, hc]
      · obtain rfl : Event.settle caller = e := by simpa [hc, running] using h
        simp [State.carries]

theorem Coherent.isRunning_startRound (h : Coherent s) (known : s.Known key n) (now : Nat) (c : ι)
    (key' : κ) : (s.startRound now c key').isRunning n = s.isRunning n := by
  obtain ⟨r, hr, -⟩ := known
  simp [State.isRunning, h.rounds_startRound now c key' hr, hr]

/-! ## What a step does to a request -/

/-- The entry that the outcome of a round leaves behind. -/
def Slot.left (n : Nat) : Outcome (Resource α) → Option (Slot α)
  | .ok resource => some (.ready n resource)
  | .error _ => none

theorem State.get?_settleEntry_self {entries : Table κ (Slot α)} {o : Outcome (Resource α)}
    (entry : entries.get? key = some (.inFlight n)) :
    (State.settleEntry entries key n o).get? key = Slot.left n o := by
  cases o with
  | ok resource => rw [State.settleEntry_ok entry, Table.get?_insert_self, Slot.left]
  | error e => rw [State.settleEntry_error entry, Table.get?_erase_self, Slot.left]

/-- The notes tell the caller this outcome of the round, and nobody anything else. -/
def Answers (notes : List (Note ι κ α)) (caller : ι) (key : κ) (n : Nat)
    (o : Outcome (Resource α)) : Prop :=
  notes = [.answered caller key n o] ∨ ∃ path, notes = [.hit key path, .answered caller key n o]

omit [DecidableEq ι] [DecidableEq κ] in
theorem Answers.told {o : Outcome (Resource α)} (h : Answers notes caller key n o) :
    .answered caller key n o ∈ notes := by
  rcases h with rfl | ⟨path, rfl⟩ <;> simp

omit [DecidableEq ι] [DecidableEq κ] in
theorem Answers.unique {o : Outcome (Resource α)} (h : Answers notes caller key n o) {c : ι}
    {key' : κ} {m : Nat} {o' : Outcome (Resource α)} (ha : .answered c key' m o' ∈ notes) :
    c = caller ∧ key' = key ∧ m = n ∧ o' = o := by
  rcases h with rfl | ⟨path, rfl⟩ <;> simpa using ha

omit [DecidableEq ι] [DecidableEq κ] in
theorem Answers.called {o : Outcome (Resource α)} (h : Answers notes caller key n o) :
    notes.filterMap Note.called? = [] := by
  rcases h with rfl | ⟨path, rfl⟩ <;> rfl

/-- What a first look comes to. -/
inductive Opening (s s' : State ι κ α) (caller : ι) (key : κ) (notes : List (Note ι κ α)) :
    Prop where
  | defers : s'.callers.get? caller = some (.undecided key) → notes = [] →
      (∀ n, ¬ s.Running key n) → Opening s s' caller key notes
  | joins (n : Nat) : s'.callers.get? caller = some (.awaiting key n) →
      notes = [.joined key n .firstLook] → s.Running key n →
      s'.entries.get? key = some (.inFlight n) → Opening s s' caller key notes
  | ends (n : Nat) (o : Outcome (Resource α)) : s'.callers.get? caller = none →
      Answers notes caller key n o → (∀ m, ¬ s.Running key m) →
      s'.entries.get? key = Slot.left n o → Opening s s' caller key notes

/-- What a step comes to for a caller at work. -/
inductive Course (s s' : State ι κ α) (caller : ι) (stage : Stage κ) (e : Event ι κ α)
    (notes : List (Note ι κ α)) : Prop where
  /-- It is the step of somebody else, or the end of a fetch. -/
  | stays : e.caller? ≠ some caller → s'.callers.get? caller = some stage →
      (∀ key n o, .answered caller key n o ∉ notes) → Course s s' caller stage e notes
  | boards (n : Nat) : e = .decide caller → stage = .undecided stage.key →
      s'.callers.get? caller = some (.awaiting stage.key n) →
      s'.entries.get? stage.key = some (.inFlight n) →
      (∀ key n o, .answered caller key n o ∉ notes) → Course s s' caller stage e notes
  | ends (n : Nat) (o : Outcome (Resource α)) : e.caller? = some caller →
      s'.callers.get? caller = none → Answers notes caller stage.key n o →
      (∀ m, stage = .awaiting stage.key m → m = n) →
      ((∀ m, stage = .awaiting stage.key m → s.entries.get? stage.key = some (.inFlight m)) →
        s'.entries.get? stage.key = Slot.left n o) →
      Course s s' caller stage e notes
  | leaves : e = .drop caller → s'.callers.get? caller = none → notes = [] →
      Course s s' caller stage e notes

theorem Transition.opening (t : Transition describe env s e env' s' notes) (h : Coherent s)
    (looks : Looks s caller key e .firstLook) : Opening s s' caller key notes := by
  cases looks with
  | first free =>
    cases t with
    | hit looks' entry _ =>
      cases looks'
      refine .ends _ _ (Table.get?_erase_self _ _) (.inr ⟨_, rfl⟩) (fun m hm => ?_) entry
      rw [h.running _ m hm] at entry
      cases entry
    | join looks' entry running =>
      cases looks'
      have known := h.inFlight _ _ entry
      exact .joins _ (Table.get?_insert_self _ _ _) rfl (known.running running) entry
    | defer _ idle _ =>
      exact .defers (Table.get?_insert_self _ _ _) rfl (h.not_running_of_idle idle)

omit [DecidableEq κ] in
theorem Looks.caller? {path : Path} (looks : Looks s caller key e path) :
    e.caller? = some caller := by
  cases looks <;> rfl

/-- A step that is not its own leaves a caller where it is, and tells it nothing. -/
theorem Transition.caller_elsewhere (t : Transition describe env s e env' s' notes)
    (other : e.caller? ≠ some caller) : s'.callers.get? caller = s.callers.get? caller ∧
      ∀ key n o, .answered caller key n o ∉ notes := by
  have not_own : ∀ {c}, e.caller? = some c → c ≠ caller := by
    rintro c own rfl
    exact other own
  cases t with
  | hit looks _ _ =>
    have ne := not_own looks.caller?
    exact ⟨Table.get?_erase_of_ne ne, by simp [Ne.symm ne]⟩
  | join looks _ _ =>
    exact ⟨Table.get?_insert_of_ne (not_own looks.caller?), by simp⟩
  | defer _ _ _ | miss _ _ _ _ => exact ⟨Table.get?_insert_of_ne (not_own rfl), by simp⟩
  | finish _ _ _ => exact ⟨rfl, by simp⟩
  | promote _ _ _ _ | settle _ _ | drop _ =>
    have ne := not_own rfl
    exact ⟨Table.get?_erase_of_ne ne, by simp [Ne.symm ne]⟩

theorem Transition.course (t : Transition describe env s e env' s' notes)
    (hc : s.callers.get? caller = some stage) : Course s s' caller stage e notes := by
  by_cases own : e.caller? = some caller
  · cases t with
    | @hit c key _ _ n resource looks entry _ =>
      obtain rfl : c = caller := Option.some.inj (looks.caller?.symm.trans own)
      cases looks with
      | first free => rw [free] at hc; cases hc
      | second undecided =>
        obtain rfl : Stage.undecided key = stage := Option.some.inj (undecided.symm.trans hc)
        exact .ends n (.ok resource) rfl (Table.get?_erase_self _ _) (.inr ⟨_, rfl⟩) nofun
          fun _ => entry
    | @join c key _ _ n looks entry _ =>
      obtain rfl : c = caller := Option.some.inj (looks.caller?.symm.trans own)
      cases looks with
      | first free => rw [free] at hc; cases hc
      | second undecided =>
        obtain rfl : Stage.undecided key = stage := Option.some.inj (undecided.symm.trans hc)
        exact .boards n rfl rfl (Table.get?_insert_self _ _ _) entry (by simp)
    | defer free _ _ =>
      cases own
      rw [free] at hc
      cases hc
    | @promote c key n resource undecided _ _ _ =>
      cases own
      obtain rfl : Stage.undecided key = stage := Option.some.inj (undecided.symm.trans hc)
      exact .ends n (.ok resource) rfl (Table.get?_erase_self _ _) (.inr ⟨_, rfl⟩) nofun
        fun _ => Table.get?_insert_self _ _ _
    | @miss c key _ undecided _ _ _ =>
      cases own
      obtain rfl : Stage.undecided key = stage := Option.some.inj (undecided.symm.trans hc)
      exact .boards s.started rfl rfl (Table.get?_insert_self _ _ _) (Table.get?_insert_self _ _ _)
        (by simp)
    | finish _ _ _ => cases own
    | @settle c key n o awaits _ =>
      cases own
      obtain rfl : Stage.awaiting key n = stage := Option.some.inj (awaits.symm.trans hc)
      exact .ends n o rfl (Table.get?_erase_self _ _) (.inl rfl) (by simp [Stage.key])
        fun entry => State.get?_settleEntry_self (entry n rfl)
    | drop _ =>
      cases own
      exact .leaves rfl (Table.get?_erase_self _ _) rfl
  · obtain ⟨same, silent⟩ := t.caller_elsewhere own
    exact .stays own (same.trans hc) silent

omit [DecidableEq κ] in
theorem State.toGo_eq_of_callers (hc : s'.callers.get? caller = s.callers.get? caller)
    (running : ∀ key n, s.callers.get? caller = some (.awaiting key n) →
      s'.isRunning n = s.isRunning n) : s'.toGo caller = s.toGo caller := by
  unfold State.toGo
  rw [hc]
  split
  · rfl
  · rfl
  · rename_i key n awaits
    rw [running key n awaits]

omit [DecidableEq κ] in
theorem State.toGo_le (s : State ι κ α) (caller : ι) : s.toGo caller ≤ 3 := by
  unfold State.toGo
  split
  · omega
  · omega
  · split <;> omega

omit [DecidableEq κ] in
theorem State.toGo_of_awaiting (hc : s.callers.get? caller = some (.awaiting key n)) :
    s.toGo caller ≤ 2 := by
  simp only [State.toGo, hc]
  split <;> omega

omit [DecidableEq κ] in
/-- Of the events that are not its own, only the end of the fetch that it waits for carries a caller
on. -/
theorem State.carries_of_other (other : e.caller? ≠ some caller)
    (carried : s.carries caller e = true) :
    ∃ n ending key, e = .finish n ending ∧ s.callers.get? caller = some (.awaiting key n) := by
  cases e with
  | look c _ | decide c | settle c =>
    obtain rfl : c = caller := by simpa [State.carries] using carried
    exact absurd rfl other
  | drop _ => cases carried
  | finish n ending =>
    unfold State.carries at carried
    cases hc : s.callers.get? caller with
    | none => simp [hc] at carried
    | some stage =>
      cases stage with
      | undecided _ => simp [hc] at carried
      | awaiting key m =>
        obtain rfl : m = n := by simpa [hc] using carried
        exact ⟨m, ending, key, rfl, rfl⟩

/-- Whether a round runs is changed by its own end only. -/
theorem Transition.isRunning_eq (t : Transition describe env s e env' s' notes) (h : Coherent s)
    (known : s.Known key n) (unended : ∀ ending, e ≠ .finish n ending) :
    s'.isRunning n = s.isRunning n := by
  cases t with
  | hit _ _ _ | join _ _ _ | defer _ _ _ | promote _ _ _ _ | settle _ _ | drop _ => rfl
  | miss _ _ _ _ => exact h.isRunning_startRound known _ _ _
  | @finish m _ ending _ _ _ =>
    have different : n ≠ m := by
      rintro rfl
      exact unended ending rfl
    simp only [State.isRunning, Round.store_of_ne _ _ different]

/-- An event that carries a request on brings its answer nearer, and no event puts it off. -/
theorem Transition.toGo (t : Transition describe env s e env' s' notes) (h : Coherent s)
    (hc : s.callers.get? caller = some stage) :
    s'.toGo caller + (s.carries caller e).toNat ≤ s.toGo caller := by
  have gone : s'.callers.get? caller = none → s'.toGo caller = 0 := by
    intro none
    simp [State.toGo, none]
  have working : 1 ≤ s.toGo caller := by
    simp only [State.toGo, hc]
    cases stage with
    | undecided _ => simp
    | awaiting _ n => by_cases hr : s.isRunning n = true <;> simp [hr]
  have bit : (s.carries caller e).toNat ≤ 1 := Bool.toNat_le _
  cases t.course hc with
  | ends n o own left _ _ _ => rw [gone left]; omega
  | leaves dropped left _ => rw [gone left, dropped]; simp [State.carries]
  | boards n decides undecided awaits _ _ =>
    have after := State.toGo_of_awaiting awaits
    have before : s.toGo caller = 3 := by
      rw [undecided] at hc
      simp [State.toGo, hc]
    omega
  | stays other stays _ =>
    cases carried : s.carries caller e with
    | false =>
      refine Nat.le_of_eq (State.toGo_eq_of_callers (stays.trans hc.symm) fun key n awaits => ?_)
      refine t.isRunning_eq h (h.awaited caller key n awaits) fun ending he => ?_
      simp [State.carries, he, awaits] at carried
    | true =>
      obtain ⟨n, ending, key, rfl, awaits⟩ := State.carries_of_other other carried
      cases t with
      | finish hr ho _ => simp [State.toGo, awaits, State.isRunning, hr, ho]
      | hit looks _ _ | join looks _ _ => cases looks

/-- What a look comes to that finds a round of the key ended and not settled. -/
theorem Transition.unsettled (t : Transition describe env s e env' s' notes)
    {o : Outcome (Resource α)} (entry : s.entries.get? key = some (.inFlight n))
    (ended : s.outcome? n = some o) {path : Path} (looks : Looks s caller key e path) :
    (path = .firstLook → notes = [] ∧ s'.callers.get? caller = some (.undecided key) ∧
      s'.entries = s.entries) ∧
    (path = .secondLook →
      (∀ resource, o = .ok resource → (resource.validity.check env).1 = true →
        notes = [.hit key .promotion, .answered caller key n o] ∧
          s'.entries.get? key = some (.ready n resource)) ∧
      ((∀ resource, o = .ok resource → (resource.validity.check env).1 = false) →
        notes = [.missed key s.started])) := by
  have idle : s.isRunning n ≠ true := by
    intro running
    rw [State.outcome?_of_isRunning running] at ended
    cases ended
  cases looks with
  | first free =>
    refine ⟨fun _ => ?_, nofun⟩
    cases t with
    | hit looks' entry' _ => cases looks'; rw [entry] at entry'; cases entry'
    | join looks' entry' running =>
      cases looks'
      obtain rfl : n = _ := by simpa using entry.symm.trans entry'
      exact absurd running idle
    | defer _ _ _ => exact ⟨rfl, Table.get?_insert_self _ _ _, rfl⟩
  | second undecided =>
    refine ⟨nofun, fun _ => ?_⟩
    have looks : Looks s caller key (.decide caller) .secondLook := .second undecided
    cases t with
    | hit looks' entry' _ =>
      obtain ⟨-, rfl, -⟩ := looks.unique looks'
      rw [entry] at entry'
      cases entry'
    | join looks' entry' running =>
      obtain ⟨-, rfl, -⟩ := looks.unique looks'
      obtain rfl : n = _ := by simpa using entry.symm.trans entry'
      exact absurd running idle
    | promote undecided' entry' ended' valid =>
      obtain ⟨-, rfl, -⟩ := looks.unique (.second undecided')
      obtain rfl : n = _ := by simpa using entry.symm.trans entry'
      obtain rfl : o = _ := by simpa using ended.symm.trans ended'
      refine ⟨fun resource ho _ => ?_, fun invalid => ?_⟩
      · obtain rfl : _ = resource := by simpa using ho
        exact ⟨rfl, Table.get?_insert_self _ _ _⟩
      · rw [invalid _ rfl] at valid
        cases valid
    | miss undecided' _ invalid _ =>
      obtain ⟨-, rfl, -⟩ := looks.unique (.second undecided')
      refine ⟨fun resource ho valid => ?_, fun _ => rfl⟩
      rw [invalid n resource entry (ho ▸ ended)] at valid
      cases valid

end Step

end Cache
end SingleFlight
