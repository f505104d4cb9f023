import SingleFlight.Cache

/-!
What a step of the keyed cache can do.

`Transition` has one constructor for each way in which the table, the rounds and the callers can
change, with everything that has to hold before.  `step_transition` says that there is no other
step, and is the only place where `step` is opened.  A first and a second look that serve or join
do the same, so they share a constructor and `Looks` tells them apart.
-/

namespace SingleFlight

/-- Whether the resource that a fetch ends with, if it does, gives one answer at one moment. -/
def Ending.isSteady {α : Type} : Ending (Resource α) → Bool
  | returned (.ok resource) => resource.validity.isSteady
  | _ => true

theorem Ending.isSteady_of_outcome {α : Type} {ending : Ending (Resource α)} {parameters : String}
    {resource : Resource α} (h : ending.isSteady = true)
    (ok : ending.outcome parameters = .ok resource) : resource.validity.isSteady = true := by
  obtain rfl := outcome_eq_ok_iff.1 ok
  exact h

namespace Cache

variable {ι κ α : Type}

namespace State

/-! ## Rounds and callers -/

/-- The round was started for the key and has not ended. -/
def Running (s : State ι κ α) (key : κ) (n : Nat) : Prop :=
  ∃ r, s.rounds n = some r ∧ r.key = key ∧ r.outcome = none

/-- The round was started for the key. -/
def Known (s : State ι κ α) (key : κ) (n : Nat) : Prop := ∃ r, s.rounds n = some r ∧ r.key = key

theorem isRunning_iff {s : State ι κ α} {n : Nat} :
    s.isRunning n = true ↔ ∃ r, s.rounds n = some r ∧ r.outcome = none := by
  unfold isRunning
  cases h : s.rounds n <;> simp

theorem Running.isRunning {s : State ι κ α} {key : κ} {n : Nat} (h : s.Running key n) :
    s.isRunning n = true := by
  obtain ⟨r, hr, -, ho⟩ := h
  exact isRunning_iff.2 ⟨r, hr, ho⟩

theorem outcome?_eq_some_iff {s : State ι κ α} {n : Nat} {o : Outcome (Resource α)} :
    s.outcome? n = some o ↔ ∃ r, s.rounds n = some r ∧ r.outcome = some o := by
  simp [outcome?, Option.bind_eq_some_iff]

theorem outcome?_of_isRunning {s : State ι κ α} {n : Nat} (h : s.isRunning n = true) :
    s.outcome? n = none := by
  obtain ⟨r, hr, ho⟩ := isRunning_iff.1 h
  simp [outcome?, hr, ho]

theorem Known.running {s : State ι κ α} {key : κ} {n : Nat} (h : s.Known key n)
    (running : s.isRunning n = true) : s.Running key n := by
  obtain ⟨r, hr, hkey⟩ := h
  obtain ⟨r', hr', ho⟩ := isRunning_iff.1 running
  obtain rfl : r = r' := by simpa using hr.symm.trans hr'
  exact ⟨r, hr, hkey, ho⟩

theorem Known.ended {s : State ι κ α} {key : κ} {n : Nat} {o : Outcome (Resource α)}
    (h : s.Known key n) (ended : s.outcome? n = some o) :
    ∃ r, s.rounds n = some r ∧ r.key = key ∧ r.outcome = some o := by
  obtain ⟨r, hr, hkey⟩ := h
  obtain ⟨r', hr', ho⟩ := outcome?_eq_some_iff.1 ended
  obtain rfl : r = r' := by simpa using hr.symm.trans hr'
  exact ⟨r, hr, hkey, ho⟩

section Callers

variable [DecidableEq ι] {s : State ι κ α}

/-- A caller that is not at work leaves nothing behind. -/
theorem leave_eq_self {c : ι} (h : s.callers.get? c = none) : s.leave c = s := by
  unfold leave
  rw [Table.erase_eq_self h]

/-- Who is at work after somebody left is somebody else, and was at work before. -/
theorem get?_of_get?_leave {c c' : ι} {stage : Stage κ}
    (h : (s.leave c).callers.get? c' = some stage) :
    c ≠ c' ∧ s.callers.get? c' = some stage :=
  Table.get?_of_get?_erase h

theorem isAwaited_iff {n : Nat} :
    s.isAwaited n = true ↔ ∃ c key, s.callers.get? c = some (.awaiting key n) := by
  unfold isAwaited
  rw [List.any_eq_true]
  constructor
  · rintro ⟨⟨c, stage⟩, hm, h⟩
    cases stage with
    | undecided key => cases h
    | awaiting key r =>
      obtain rfl : r = n := by simpa using h
      exact ⟨c, key, Table.get?_eq_some_iff.2 hm⟩
  · rintro ⟨c, key, h⟩
    exact ⟨(c, .awaiting key n), Table.get?_eq_some_iff.1 h, by simp⟩

end Callers

/-! ## Settling -/

section Entries

variable [DecidableEq κ] {entries : Table κ (Slot α)} {key key' : κ} {n : Nat}

/-- The entry of a key is settled by its own round only. -/
theorem settleEntry_eq_self {o : Outcome (Resource α)}
    (h : entries.get? key ≠ some (.inFlight n)) : settleEntry entries key n o = entries := by
  unfold settleEntry
  split
  · rename_i r hr
    have hne : r ≠ n := fun hn => h (hn ▸ hr)
    rw [if_neg hne]
  · rfl

theorem settleEntry_ok {resource : Resource α} (h : entries.get? key = some (.inFlight n)) :
    settleEntry entries key n (.ok resource) = entries.insert key (.ready n resource) := by
  simp [settleEntry, h]

theorem settleEntry_error {e : ResourceError} (h : entries.get? key = some (.inFlight n)) :
    settleEntry entries key n (.error e) = entries.erase key := by
  simp [settleEntry, h]

theorem get?_settleEntry_of_ne {o : Outcome (Resource α)} (h : key ≠ key') :
    (settleEntry entries key n o).get? key' = entries.get? key' := by
  by_cases hk : entries.get? key = some (.inFlight n)
  · cases o with
    | ok resource => rw [settleEntry_ok hk, Table.get?_insert_of_ne h]
    | error e => rw [settleEntry_error hk, Table.get?_erase_of_ne h]
  · rw [settleEntry_eq_self hk]

end Entries
end State

variable [DecidableEq ι] [DecidableEq κ]

/-! ## Steps -/

/-- The surroundings after at most one validity was evaluated in them. -/
def Evaluated (env env' : Surroundings) : Prop :=
  env' = env ∨ ∃ v : Validity, env' = (v.check env).2

theorem Evaluated.now {env env' : Surroundings} (h : Evaluated env env') : env'.now = env.now := by
  rcases h with rfl | ⟨v, rfl⟩
  · rfl
  · exact v.check_now env

theorem Evaluated.lowered {env env' : Surroundings} (h : Evaluated env env') :
    env'.lowered = env.lowered := by
  rcases h with rfl | ⟨v, rfl⟩
  · rfl
  · cases v with
    | tape i =>
      simp only [Validity.check, Surroundings.readTape]
      split <;> rfl
    | _ => rfl

/-- A steady rule says the same after another was evaluated. -/
theorem Evaluated.check_steady {env env' : Surroundings} (h : Evaluated env env') {v : Validity}
    (steady : v.isSteady = true) : (v.check env').1 = (v.check env).1 := by
  cases v with
  | permanent => rfl
  | expiresAt due => simp only [Validity.check, h.now]
  | flag name => simp only [Validity.check, Surroundings.holds, h.lowered]
  | tape index => cases steady

/-- The event is a look of the caller for the key: the first of a new request, or the second of an
undecided one. -/
inductive Looks (s : State ι κ α) (caller : ι) (key : κ) : Event ι κ α → Path → Prop where
  | first : s.callers.get? caller = none → Looks s caller key (.look caller key) .firstLook
  | second : s.callers.get? caller = some (.undecided key) →
      Looks s caller key (.decide caller) .secondLook

omit [DecidableEq κ] in
theorem Looks.unique {s : State ι κ α} {c c' : ι} {key key' : κ} {e : Event ι κ α}
    {path path' : Path} (h : Looks s c key e path) (h' : Looks s c' key' e path') :
    c = c' ∧ key = key' ∧ path = path' := by
  cases h with
  | first _ =>
    cases h'
    exact ⟨rfl, rfl, rfl⟩
  | second undecided =>
    cases h' with
    | second undecided' => exact ⟨rfl, by simpa using undecided.symm.trans undecided', rfl⟩

/-- The entry of the key holds nothing valid and no running round. -/
structure Idle (env : Surroundings) (s : State ι κ α) (key : κ) : Prop where
  stale : ∀ n r, s.entries.get? key = some (.ready n r) → (r.validity.check env).1 = false
  ended : ∀ n, s.entries.get? key = some (.inFlight n) → s.isRunning n = false

/-- What a step can do. -/
inductive Transition (describe : κ → String) (env : Surroundings) (s : State ι κ α) :
    Event ι κ α → Surroundings → State ι κ α → List (Note ι κ α) → Prop where
  | hit {caller key e path n resource} : Looks s caller key e path →
      s.entries.get? key = some (.ready n resource) → (resource.validity.check env).1 = true →
      Transition describe env s e (resource.validity.check env).2 (s.leave caller)
        [.hit key path, .answered caller key n (.ok resource)]
  | join {caller key e path n} : Looks s caller key e path →
      s.entries.get? key = some (.inFlight n) → s.isRunning n = true →
      Transition describe env s e env (s.await caller key n) [.joined key n path]
  | defer {caller key env'} : s.callers.get? caller = none → Idle env s key →
      Evaluated env env' →
      Transition describe env s (.look caller key) env'
        { s with callers := s.callers.insert caller (.undecided key) } []
  | promote {caller key n resource} : s.callers.get? caller = some (.undecided key) →
      s.entries.get? key = some (.inFlight n) → s.outcome? n = some (.ok resource) →
      (resource.validity.check env).1 = true →
      Transition describe env s (.decide caller) (resource.validity.check env).2
        { s.leave caller with entries := s.entries.insert key (.ready n resource) }
        [.hit key .promotion, .answered caller key n (.ok resource)]
  | miss {caller key env'} : s.callers.get? caller = some (.undecided key) → Idle env s key →
      (∀ n r, s.entries.get? key = some (.inFlight n) → s.outcome? n = some (.ok r) →
        (r.validity.check env).1 = false) →
      Evaluated env env' →
      Transition describe env s (.decide caller) env' (s.startRound env.now caller key)
        [.missed key s.started]
  | finish {n r ending} : s.rounds n = some r → r.outcome = none → s.isAwaited n = true →
      Transition describe env s (.finish n ending) env
        { s with
          rounds := Round.store s.rounds n
            { r with outcome := some (ending.outcome (describe r.key)) } }
        [.finished r.key n (env.now - r.startedAt) (ending.outcome (describe r.key))]
  | settle {caller key n o} : s.callers.get? caller = some (.awaiting key n) →
      s.outcome? n = some o →
      Transition describe env s (.settle caller) env
        { s.leave caller with entries := State.settleEntry s.entries key n o }
        [.answered caller key n o]
  | drop {caller stage} : s.callers.get? caller = some stage →
      Transition describe env s (.drop caller) env (s.leave caller) []

variable {describe : κ → String} {env env' : Surroundings} {s s' : State ι κ α}
  {e : Event ι κ α} {notes : List (Note ι κ α)}

theorem look_transition {caller : ι} {key : κ} (hc : s.callers.get? caller = none)
    (h : firstLook env s caller key = (env', s', notes)) :
    Transition describe env s (.look caller key) env' s' notes := by
  unfold firstLook at h
  split at h
  · rename_i n resource entry
    cases hv : resource.validity.check env with
    | mk valid after =>
      have h1 : (resource.validity.check env).1 = valid := by rw [hv]
      have h2 : (resource.validity.check env).2 = after := by rw [hv]
      rw [hv] at h
      cases valid with
      | true =>
        obtain ⟨rfl, rfl, rfl⟩ := by simpa using h
        have t : Transition describe env s (.look caller key) _ _ _ := .hit (.first hc) entry h1
        rwa [State.leave_eq_self hc, h2] at t
      | false =>
        obtain ⟨rfl, rfl, rfl⟩ := by simpa using h
        exact .defer hc ⟨by simp_all, by simp_all⟩ (.inr ⟨_, h2.symm⟩)
  · rename_i n entry
    split at h
    · rename_i running
      obtain ⟨rfl, rfl, rfl⟩ := by simpa using h
      exact .join (.first hc) entry running
    · obtain ⟨rfl, rfl, rfl⟩ := by simpa using h
      exact .defer hc ⟨by simp_all, by simp_all⟩ (.inl rfl)
  · obtain ⟨rfl, rfl, rfl⟩ := by simpa using h
    exact .defer hc ⟨by simp_all, by simp_all⟩ (.inl rfl)

theorem decide_transition {caller : ι} {key : κ}
    (hc : s.callers.get? caller = some (.undecided key))
    (h : secondLook env s caller key = (env', s', notes)) :
    Transition describe env s (.decide caller) env' s' notes := by
  unfold secondLook miss at h
  split at h
  · rename_i n resource entry
    cases hv : resource.validity.check env with
    | mk valid after =>
      have h1 : (resource.validity.check env).1 = valid := by rw [hv]
      have h2 : (resource.validity.check env).2 = after := by rw [hv]
      rw [hv] at h
      cases valid with
      | true =>
        obtain ⟨rfl, rfl, rfl⟩ := by simpa using h
        have t : Transition describe env s (.decide caller) _ _ _ := .hit (.second hc) entry h1
        rwa [h2] at t
      | false =>
        have ev : Evaluated env after := .inr ⟨_, h2.symm⟩
        obtain ⟨rfl, rfl, rfl⟩ := by simpa using h
        rw [ev.now]
        exact .miss hc ⟨by simp_all, by simp_all⟩ (by simp_all) ev
  · rename_i n entry
    split at h
    · rename_i running
      obtain ⟨rfl, rfl, rfl⟩ := by simpa using h
      exact .join (.second hc) entry running
    · have idle : Idle env s key := ⟨by simp_all, by simp_all⟩
      split at h
      · rename_i resource ended
        cases hv : resource.validity.check env with
        | mk valid after =>
          have h1 : (resource.validity.check env).1 = valid := by rw [hv]
          have h2 : (resource.validity.check env).2 = after := by rw [hv]
          rw [hv] at h
          cases valid with
          | true =>
            obtain ⟨rfl, rfl, rfl⟩ := by simpa using h
            have t : Transition describe env s (.decide caller) _ _ _ := .promote hc entry ended h1
            rwa [h2] at t
          | false =>
            have ev : Evaluated env after := .inr ⟨_, h2.symm⟩
            obtain ⟨rfl, rfl, rfl⟩ := by simpa using h
            rw [ev.now]
            refine .miss hc idle (fun m r hm ho => ?_) ev
            obtain rfl : n = m := by simpa using entry.symm.trans hm
            obtain rfl : resource = r := by simpa using ended.symm.trans ho
            exact h1
      · rename_i failed
        obtain ⟨rfl, rfl, rfl⟩ := by simpa using h
        refine .miss hc idle (fun m r hm ho => ?_) (.inl rfl)
        obtain rfl : n = m := by simpa using entry.symm.trans hm
        exact absurd ho (failed r)
  · obtain ⟨rfl, rfl, rfl⟩ := by simpa using h
    exact .miss hc ⟨by simp_all, by simp_all⟩ (by simp_all) (.inl rfl)

/-- Every step is one of the transitions. -/
theorem step_transition (h : step describe env s e = some (env', s', notes)) :
    Transition describe env s e env' s' notes := by
  cases e with
  | look caller key =>
    dsimp only [step] at h
    split at h
    · rename_i hc
      exact look_transition hc (Option.some.inj h)
    · cases h
  | decide caller =>
    dsimp only [step] at h
    split at h
    · rename_i hc
      exact decide_transition hc (Option.some.inj h)
    · cases h
  | finish n ending =>
    dsimp only [step] at h
    split at h
    · rename_i r hr
      split at h
      · rename_i hg
        obtain ⟨ho, ha⟩ : r.outcome = none ∧ s.isAwaited n = true := by simpa using hg
        obtain ⟨rfl, rfl, rfl⟩ := by simpa using h
        exact .finish hr ho ha
      · cases h
    · cases h
  | settle caller =>
    dsimp only [step] at h
    split at h
    · rename_i hc
      split at h
      · rename_i ho
        obtain ⟨rfl, rfl, rfl⟩ := by simpa using h
        exact .settle hc ho
      · cases h
    · cases h
  | drop caller =>
    dsimp only [step] at h
    split at h
    · rename_i hc
      obtain ⟨rfl, rfl, rfl⟩ := by simpa using h
      exact .drop hc
    · cases h

/-- No step moves the clock. -/
theorem Transition.now (t : Transition describe env s e env' s' notes) : env'.now = env.now := by
  cases t with
  | hit _ _ _ => exact Validity.check_now _ _
  | promote _ _ _ _ => exact Validity.check_now _ _
  | defer _ _ ev => exact ev.now
  | miss _ _ _ ev => exact ev.now
  | join _ _ _ => rfl
  | finish _ _ _ => rfl
  | settle _ _ => rfl
  | drop _ => rfl

end Cache
end SingleFlight
