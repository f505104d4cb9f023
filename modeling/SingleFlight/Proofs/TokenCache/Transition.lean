import SingleFlight.Proofs.Cache.Rounds
import SingleFlight.TokenCache

/-!
What a step of the token cache can do.

`Transition` has one constructor for each thing that a caller, the task of a timer, or the holder of
a handle can do, with everything that has to hold before.  `step_transition` says that there is no
other step, and is the only place where `step` is opened.  A step of the keyed cache is one of its
own transitions, and four constructors tell apart what follows from it: no answer, a token or an
error for a reader that fetches, and any answer for a refresh.

`lock`, `cancel` and `arm` branch, so an equation says of each which fields it can change; the other
operations are plain updates.
-/

namespace SingleFlight

namespace Cache

variable {ι κ α : Type} {notes : List (Note ι κ α)}

/-! ## Answers of the keyed cache -/

theorem Note.answered_of_findSome? {c : ι} {n : Nat} {o : Outcome (Resource α)}
    (h : notes.findSome? Note.answer? = some (c, n, o)) : ∃ key, .answered c key n o ∈ notes := by
  obtain ⟨note, hm, ha⟩ := List.exists_of_findSome?_eq_some h
  cases note with
  | answered c' key n' o' =>
    obtain ⟨rfl, rfl, rfl⟩ : c' = c ∧ n' = n ∧ o' = o := by simpa [Note.answer?] using ha
    exact ⟨key, hm⟩
  | hit _ _ | joined _ _ _ | missed _ _ | finished _ _ _ _ => cases ha

theorem Note.not_answered_of_findSome? (h : notes.findSome? Note.answer? = none) (c : ι) (key : κ)
    (n : Nat) (o : Outcome (Resource α)) : .answered c key n o ∉ notes := by
  intro hm
  cases List.findSome?_eq_none_iff.1 h _ hm

end Cache

namespace TokenCache
namespace State

/-! ## The lock -/

/-- Asking for the lock changes who has it or waits for it, and nothing else. -/
theorem lock_eq (s : State) (a : Agent) :
    s.lock a = { s with holder := (s.lock a).holder, queue := (s.lock a).queue } := by
  unfold lock
  split <;> rfl

/-- The caller's call is over, and the caller hands the lock on. -/
def leave (s : State) (n : Nat) : State := { s with callers := s.callers.erase n }.unlock

/-- The task of a timer is over, and hands the lock on. -/
def retire (s : State) (t : Nat) : State := { s with tasks := s.tasks.erase t }.unlock

/-- A caller that goes away takes its request to the keyed cache with it, and leaves the lock. -/
theorem cancel_eq (s : State) (n : Nat) :
    s.cancel n =
      { s with
        callers := s.callers.erase n
        keyed := s.keyed.leave (.caller n)
        holder := (s.cancel n).holder
        queue := (s.cancel n).queue } := by
  unfold cancel
  dsimp only
  split <;> rfl

/-! ## Timers -/

section Arm

variable (s : State) (now firesAt : Nat)

/-- Arming gives the cache a new timer with a task of its own, or does nothing. -/
theorem arm_fst : (s.arm now firesAt).1 =
    { s with
      timer := if s.enabled then some ⟨s.nextTimer, firesAt⟩ else s.timer
      nextTimer := if s.enabled then s.nextTimer + 1 else s.nextTimer
      tasks := if s.enabled then s.tasks.insert s.nextTimer (.sleeping firesAt) else s.tasks } := by
  unfold arm
  split <;> rfl

theorem mem_arm_snd {note : Note} : note ∈ (s.arm now firesAt).2 ↔
    s.enabled = true ∧ note = .armed ⟨s.nextTimer, firesAt⟩ (Instant.remaining firesAt now) := by
  unfold arm
  split <;> simp_all

theorem install_fst (h : Held) : (s.install now h).1 =
    ({ s with
      held := some h
      published := some h.token
      publications := s.publications + 1
      failures := 0
      lastError := none }.arm now h.refreshAt).1 := rfl

theorem mem_install_snd {h : Held} {note : Note} : note ∈ (s.install now h).2 ↔
    note = .installed h ∨ s.enabled = true ∧
      note = .armed ⟨s.nextTimer, h.refreshAt⟩ (Instant.remaining h.refreshAt now) := by
  unfold install
  dsimp only
  rw [List.mem_cons, mem_arm_snd]

end Arm

/-- A refresh has failed, and its timer with it. -/
def noteFailure (s : State) (e : ResourceError) : State :=
  { s with timer := none, failures := min (s.failures + 1) failureBound, lastError := some e }

theorem usable?_eq_some_iff {s : State} {now : Nat} {h : Held} :
    s.usable? now = some h ↔ s.held = some h ∧ now < h.token.expiresAt := by
  simp [usable?, Token.isExpired, Option.filter_eq_some_iff]

theorem usable?_eq_none_iff {s : State} {now : Nat} :
    s.usable? now = none ↔ ∀ h, s.held = some h → h.token.expiresAt ≤ now := by
  simp [usable?, Token.isExpired, Option.filter_eq_none_iff]

/-! ## Requests to the keyed cache -/

theorem mayRequest_caller {s : State} {n : Nat} :
    s.mayRequest (.caller n) = true ↔ s.callers.get? n = some .fetching := by
  simp [mayRequest]

theorem mayRequest_refresh {s : State} {t : Nat} :
    s.mayRequest (.refresh t) = true ↔ s.tasks.get? t = some .requesting := by
  dsimp only [mayRequest]
  split <;> simp_all

/-- The keyed cache may take the step: requests are made by those who have one to make, and for the
parameters of the cache. -/
def Permits (cfg : Config) (s : State) : Cache.Event Agent ParameterSet Token → Prop
  | .look a key => s.mayRequest a = true ∧ key = cfg.parameters
  | .drop _ => False
  | _ => True

/-- The caller has the lock, and wants this. -/
structure Acts (s : State) (n : Nat) (wish : Wish) : Prop where
  holds : s.holder = some (.caller n)
  queued : s.callers.get? n = some (.queued wish)

/-- The task has the lock, and its request was answered so. -/
structure Returns (s : State) (t round : Nat) (o : Outcome (Resource Token)) : Prop where
  holds : s.holder = some (.refresh t)
  returned : s.tasks.get? t = some (.returned round o)

end State

open State

/-- What a step can do. -/
inductive Transition (cfg : Config) (env : Surroundings) (s : State) :
    Event → Surroundings → State → List Note → Prop where
  | enter {n wish} : s.callers.get? n = none → 0 < s.handles →
      Transition cfg env s (.enter n wish) env
        ({ s with callers := s.callers.insert n (.queued wish) }.lock (.caller n)) []
  | serve {n h} : s.Acts n .get → s.usable? env.now = some h →
      Transition cfg env s (.act (.caller n)) env (s.leave n) [.answered n (.ok h.token)]
  | fetch {n} : s.Acts n .get → s.usable? env.now = none →
      Transition cfg env s (.act (.caller n)) env
        { s with callers := s.callers.insert n .fetching }
        (if s.held.isSome then [.foundExpired] else [])
  /-- Timers are on, and there is one already. -/
  | keep {n} : s.Acts n .start → s.timer.isSome = true →
      Transition cfg env s (.act (.caller n)) env ({ s with enabled := true }.leave n) []
  | resume {n h} : s.Acts n .start → s.timer = none → s.usable? env.now = some h →
      Transition cfg env s (.act (.caller n)) env
        (({ s with enabled := true }.arm env.now h.refreshAt).1.leave n)
        (({ s with enabled := true }.arm env.now h.refreshAt).2 ++ [.started])
  /-- Timers are on, and there is nothing to refresh. -/
  | idle {n} : s.Acts n .start → s.timer = none → s.usable? env.now = none →
      Transition cfg env s (.act (.caller n)) env ({ s with enabled := true }.leave n) [.started]
  | stop {n} : s.Acts n .stop →
      Transition cfg env s (.act (.caller n)) env
        ({ s with enabled := false, timer := none }.leave n) [.stopped]
  | discard {t round o} : s.Returns t round o → s.timer.map Timer.id ≠ some t →
      Transition cfg env s (.act (.refresh t)) env (s.retire t) [.discarded t]
  | refresh {t round r} : s.Returns t round (.ok r) → s.timer.map Timer.id = some t →
      Transition cfg env s (.act (.refresh t)) env
        (({ s with timer := none }.install env.now (heldOf round r)).1.retire t)
        (.refreshed t :: ({ s with timer := none }.install env.now (heldOf round r)).2)
  | giveUp {t round e} : s.Returns t round (.error e) → s.timer.map Timer.id = some t →
      e.isConfiguration = true ∨ s.usable? env.now = none →
      Transition cfg env s (.act (.refresh t)) env ((s.noteFailure e).retire t)
        [.refreshFailed (s.noteFailure e).failures e none]
  | retry {t round e h delay} : s.Returns t round (.error e) → s.timer.map Timer.id = some t →
      e.isConfiguration = false → s.usable? env.now = some h →
      delay = cfg.backoff.delay (s.noteFailure e).failures →
      Transition cfg env s (.act (.refresh t)) env
        (((s.noteFailure e).arm env.now (Instant.after env.now delay)).1.retire t)
        (.refreshFailed (s.noteFailure e).failures e (some delay) ::
          ((s.noteFailure e).arm env.now (Instant.after env.now delay)).2)
  /-- The keyed cache takes a step, and answers nobody. -/
  | keyed {e env' keyed notes} : s.Permits cfg e →
      Cache.Transition ParameterSet.text env s.keyed (arriving cfg env.now e) env' keyed notes →
      (∀ a key round o, .answered a key round o ∉ notes) →
      Transition cfg env s (.keyed e) env' { s with keyed := keyed } (notes.map .keyed)
  | fetched {e env' keyed notes n key round r} : s.Permits cfg e →
      Cache.Transition ParameterSet.text env s.keyed (arriving cfg env.now e) env' keyed notes →
      .answered (.caller n) key round (.ok r) ∈ notes →
      Transition cfg env s (.keyed e) env'
        (({ s with keyed := keyed }.install env.now (heldOf round r)).1.leave n)
        (notes.map .keyed ++ (({ s with keyed := keyed }.install env.now (heldOf round r)).2 ++
          [.answered n (.ok r.value)]))
  | failed {e env' keyed notes n key round error} : s.Permits cfg e →
      Cache.Transition ParameterSet.text env s.keyed (arriving cfg env.now e) env' keyed notes →
      .answered (.caller n) key round (.error error) ∈ notes →
      Transition cfg env s (.keyed e) env' ({ s with keyed := keyed }.leave n)
        (notes.map .keyed ++ [.answered n (.error error)])
  /-- A refresh is answered, and asks for the lock. -/
  | returned {e env' keyed notes t key round o} : s.Permits cfg e →
      Cache.Transition ParameterSet.text env s.keyed (arriving cfg env.now e) env' keyed notes →
      .answered (.refresh t) key round o ∈ notes →
      Transition cfg env s (.keyed e) env'
        ({ s with keyed := keyed, tasks := s.tasks.insert t (.returned round o) }.lock (.refresh t))
        (notes.map .keyed)
  | fire {t firesAt} : s.tasks.get? t = some (.sleeping firesAt) → firesAt ≤ env.now →
      s.isReachable = true →
      Transition cfg env s (.fire t) env { s with tasks := s.tasks.insert t .requesting }
        [.refreshing t]
  | quit {t firesAt} : s.tasks.get? t = some (.sleeping firesAt) →
      s.isReachable = false ∨ s.timer.map Timer.id ≠ some t →
      Transition cfg env s (.quit t) env { s with tasks := s.tasks.erase t } []
  | cancel {n stage} : s.callers.get? n = some stage →
      Transition cfg env s (.cancel n) env (s.cancel n) []
  | addHandle : 0 < s.handles →
      Transition cfg env s .addHandle env { s with handles := s.handles + 1 } []
  | dropHandle : 0 < s.handles →
      Transition cfg env s .dropHandle env { s with handles := s.handles - 1 } []

variable {cfg : Config} {env env' : Surroundings} {s s' : State} {e : Event} {notes : List Note}

theorem act_caller_transition {n : Nat} (holds : s.holder = some (.caller n))
    (h : s.act cfg env.now (.caller n) = some (s', notes)) :
    Transition cfg env s (.act (.caller n)) env s' notes := by
  dsimp only [act] at h
  split at h
  · rename_i queued
    have acts : s.Acts n .get := ⟨holds, queued⟩
    split at h
    · rename_i usable
      obtain ⟨rfl, rfl⟩ := by simpa [answer] using h
      exact .serve acts usable
    · rename_i unusable
      obtain ⟨rfl, rfl⟩ := by simpa using h
      exact .fetch acts unusable
  · rename_i queued
    have acts : s.Acts n .start := ⟨holds, queued⟩
    by_cases armed : s.timer.isSome = true
    · obtain ⟨rfl, rfl⟩ := by simpa [armed] using h
      exact .keep acts armed
    · have unarmed : s.timer = none := by simpa using armed
      cases usable : s.usable? env.now with
      | some held =>
        have used : ({ s with enabled := true } : State).usable? env.now = some held := usable
        rw [if_neg armed, used] at h
        obtain ⟨rfl, rfl⟩ := by simpa using h
        exact .resume acts unarmed usable
      | none =>
        have unused : ({ s with enabled := true } : State).usable? env.now = none := usable
        rw [if_neg armed, unused] at h
        obtain ⟨rfl, rfl⟩ := by simpa using h
        exact .idle acts unarmed usable
  · rename_i queued
    obtain ⟨rfl, rfl⟩ := by simpa using h
    exact .stop ⟨holds, queued⟩
  · cases h

theorem act_refresh_transition {t : Nat} (holds : s.holder = some (.refresh t))
    (h : s.act cfg env.now (.refresh t) = some (s', notes)) :
    Transition cfg env s (.act (.refresh t)) env s' notes := by
  dsimp only [act] at h
  split at h
  · rename_i round o returned
    have returns : s.Returns t round o := ⟨holds, returned⟩
    by_cases counts : s.timer.map Timer.id = some t
    · rw [if_pos counts] at h
      cases o with
      | ok r =>
        obtain ⟨rfl, rfl⟩ := by simpa [completeRefresh] using h
        exact .refresh returns counts
      | error error =>
        dsimp only [completeRefresh] at h
        split at h
        · rename_i hg
          obtain ⟨rfl, rfl⟩ := by simpa using h
          have final : (error.isConfiguration || (s.usable? env.now).isNone) = true := hg
          exact .giveUp returns counts (by simpa using final)
        · rename_i hg
          have goesOn : ¬ (error.isConfiguration || (s.usable? env.now).isNone) = true := hg
          obtain ⟨temporary, alive⟩ :
              error.isConfiguration = false ∧ ¬ s.usable? env.now = none := by
            simpa using goesOn
          obtain ⟨held, usable⟩ := Option.ne_none_iff_exists'.1 alive
          obtain ⟨rfl, rfl⟩ := by simpa using h
          exact .retry returns counts temporary usable rfl
    · rw [if_neg counts] at h
      obtain ⟨rfl, rfl⟩ := by simpa using h
      exact .discard returns counts
  · cases h

theorem keyed_transition {ke : Cache.Event Agent ParameterSet Token} (permits : s.Permits cfg ke)
    (h : keyedStep cfg env s ke = some (env', s', notes)) :
    Transition cfg env s (.keyed ke) env' s' notes := by
  dsimp only [keyedStep] at h
  split at h
  · rename_i env₁ keyed known hs
    have t := Cache.step_transition hs
    rw [t.now] at h
    split at h
    · rename_i agent round o hanswer
      obtain ⟨key, ha⟩ := Cache.Note.answered_of_findSome? hanswer
      cases agent with
      | caller n =>
        cases o with
        | ok r =>
          obtain ⟨rfl, rfl, rfl⟩ := by simpa [conclude, answer] using h
          exact .fetched permits t ha
        | error error =>
          obtain ⟨rfl, rfl, rfl⟩ := by simpa [conclude, answer] using h
          exact .failed permits t ha
      | refresh timer =>
        obtain ⟨rfl, rfl, rfl⟩ := by simpa [conclude] using h
        exact .returned permits t ha
    · rename_i hquiet
      obtain ⟨rfl, rfl, rfl⟩ := by simpa using h
      exact .keyed permits t (Cache.Note.not_answered_of_findSome? hquiet)
  · cases h

/-- Every step is one of the transitions. -/
theorem step_transition (h : step cfg env s e = some (env', s', notes)) :
    Transition cfg env s e env' s' notes := by
  cases e with
  | enter n wish =>
    dsimp only [step] at h
    split at h
    · rename_i new
      split at h
      · rename_i reachable
        obtain ⟨rfl, rfl, rfl⟩ := by simpa using h
        exact .enter new reachable
      · cases h
    · cases h
  | act agent =>
    dsimp only [step] at h
    split at h
    · rename_i holds
      obtain ⟨⟨s₁, notes₁⟩, hact, h⟩ := Option.map_eq_some_iff.1 h
      obtain ⟨rfl, rfl, rfl⟩ := by simpa using h
      cases agent with
      | caller n => exact act_caller_transition holds hact
      | refresh t => exact act_refresh_transition holds hact
    · cases h
  | keyed ke =>
    dsimp only [step] at h
    split at h
    · split at h
      · rename_i hg
        exact keyed_transition (by simpa [Permits] using hg) h
      · cases h
    · cases h
    · rename_i hlook hdrop
      refine keyed_transition ?_ h
      cases ke with
      | look a key => exact absurd rfl (hlook a key)
      | drop a => exact absurd rfl (hdrop a)
      | decide _ | finish _ _ | settle _ => trivial
  | fire t =>
    dsimp only [step] at h
    split at h
    · rename_i sleeping
      split at h
      · rename_i hg
        obtain ⟨due, reachable⟩ := by simpa using hg
        obtain ⟨rfl, rfl, rfl⟩ := by simpa using h
        exact .fire sleeping due reachable
      · cases h
    · cases h
  | quit t =>
    dsimp only [step] at h
    split at h
    · rename_i sleeping
      split at h
      · rename_i hg
        obtain ⟨rfl, rfl, rfl⟩ := by simpa using h
        exact .quit sleeping (by simpa using hg)
      · cases h
    · cases h
  | cancel n =>
    dsimp only [step] at h
    split at h
    · rename_i there
      obtain ⟨rfl, rfl, rfl⟩ := by simpa using h
      exact .cancel there
    · cases h
  | addHandle =>
    dsimp only [step] at h
    split at h
    · rename_i reachable
      obtain ⟨rfl, rfl, rfl⟩ := by simpa using h
      exact .addHandle reachable
    · cases h
  | dropHandle =>
    dsimp only [step] at h
    split at h
    · rename_i reachable
      obtain ⟨rfl, rfl, rfl⟩ := by simpa using h
      exact .dropHandle reachable
    · cases h

/-! ## What a step does to the keyed cache -/

/-- A reader leaves the keyed cache when it goes away, and otherwise the keyed cache only takes
steps of its own. -/
theorem Transition.on_keyed (t : Transition cfg env s e env' s' notes) :
    (env' = env ∧ s'.keyed = s.keyed) ∨
      (env' = env ∧ ∃ n, e = .cancel n ∧ s'.keyed = s.keyed.leave (.caller n)) ∨
      ∃ ke known, e = .keyed ke ∧ s.Permits cfg ke ∧
        Cache.Transition ParameterSet.text env s.keyed (arriving cfg env.now ke) env' s'.keyed
          known := by
  cases t with
  | keyed permits t _ => exact .inr (.inr ⟨_, _, rfl, permits, t⟩)
  | @fetched ke _ _ known _ _ _ _ permits t _ =>
    refine .inr (.inr ⟨ke, known, rfl, permits, ?_⟩)
    simpa only [leave, unlock, install_fst, arm_fst] using t
  | failed permits t _ => exact .inr (.inr ⟨_, _, rfl, permits, t⟩)
  | @returned ke _ _ known _ _ _ _ permits t _ =>
    refine .inr (.inr ⟨ke, known, rfl, permits, ?_⟩)
    rw [lock_eq]
    exact t
  | @cancel n _ _ => exact .inr (.inl ⟨rfl, n, rfl, by rw [cancel_eq]⟩)
  | enter _ _ => exact .inl ⟨rfl, by rw [lock_eq]⟩
  | resume _ _ _ | refresh _ _ | retry _ _ _ _ _ =>
    exact .inl ⟨rfl, by simp only [leave, retire, unlock, noteFailure, install_fst, arm_fst]⟩
  | serve _ _ | fetch _ _ | keep _ _ | idle _ _ _ | stop _ | discard _ _ | giveUp _ _ _
  | fire _ _ _ | quit _ _ | addHandle _ | dropHandle _ => exact .inl ⟨rfl, rfl⟩

/-- A step of the keyed cache tells all that the keyed cache tells. -/
theorem Transition.of_keyed {ke : Cache.Event Agent ParameterSet Token}
    (t : Transition cfg env s (.keyed ke) env' s' notes) : s.Permits cfg ke ∧ ∃ known,
      Cache.Transition ParameterSet.text env s.keyed (arriving cfg env.now ke) env' s'.keyed known ∧
      ∀ note, .keyed note ∈ notes ↔ note ∈ known := by
  cases t with
  | keyed permits t _ => exact ⟨permits, _, t, by simp⟩
  | @fetched _ _ _ known _ _ _ _ permits t _ =>
    refine ⟨permits, known, ?_, ?_⟩
    · simpa only [leave, unlock, install_fst, arm_fst] using t
    · simp [mem_install_snd]
  | failed permits t _ => exact ⟨permits, _, t, by simp⟩
  | returned permits t _ =>
    rw [lock_eq]
    exact ⟨permits, _, t, by simp⟩

theorem Transition.keyed_of_told (t : Transition cfg env s e env' s' notes)
    {note : Cache.Note Agent ParameterSet Token} (h : .keyed note ∈ notes) :
    ∃ ke, e = .keyed ke := by
  cases t with
  | keyed _ _ _ | fetched _ _ _ | failed _ _ _ | returned _ _ _ => exact ⟨_, rfl⟩
  | fetch _ _ =>
    split at h <;> simp at h
  | resume _ _ _ | refresh _ _ | retry _ _ _ _ _ =>
    simp [mem_arm_snd, mem_install_snd] at h
  | enter _ _ | serve _ _ | keep _ _ | idle _ _ _ | stop _ | discard _ _ | giveUp _ _ _
  | fire _ _ _ | quit _ _ | cancel _ | addHandle _ | dropHandle _ => simp at h

/-- What arrives from a fetch is no look. -/
theorem looks_arriving {now : Nat} {ke : Cache.Event Agent ParameterSet Token}
    {k : Cache.State Agent ParameterSet Token} {a : Agent} {key : ParameterSet} {way : Cache.Path} :
    Cache.Looks k a key (arriving cfg now ke) way ↔ Cache.Looks k a key ke way := by
  cases ke with
  | finish _ _ => exact ⟨nofun, nofun⟩
  | look _ _ | decide _ | settle _ | drop _ => rfl

/-- No step moves the clock. -/
theorem Transition.now (t : Transition cfg env s e env' s' notes) : env'.now = env.now := by
  rcases t.on_keyed with ⟨rfl, -⟩ | ⟨rfl, -⟩ | ⟨_, _, -, -, t⟩
  · rfl
  · rfl
  · exact t.now

/-- What a caller that goes away and steps of the keyed cache keep, is kept. -/
theorem Transition.keyed_keeps (t : Transition cfg env s e env' s' notes)
    {P : Cache.State Agent ParameterSet Token → Prop} (h : P s.keyed)
    (leave : ∀ a, P (s.keyed.leave a))
    (step : ∀ ke known, s.Permits cfg ke →
      Cache.Transition ParameterSet.text env s.keyed (arriving cfg env.now ke) env' s'.keyed known →
      P s'.keyed) : P s'.keyed := by
  rcases t.on_keyed with ⟨-, same⟩ | ⟨-, n, -, left⟩ | ⟨ke, known, -, permits, t⟩
  · rw [same]
    exact h
  · rw [left]
    exact leave _
  · exact step ke known permits t

theorem Transition.coherent (t : Transition cfg env s e env' s' notes)
    (h : Cache.Coherent s.keyed) : Cache.Coherent s'.keyed :=
  t.keyed_keeps h h.leave fun _ _ _ t => t.coherent h

/-- A token that a caller is given is the held one, or was just fetched. -/
theorem Transition.answered (t : Transition cfg env s e env' s' notes) {n : Nat} {token : Token}
    (ha : .answered n (.ok token) ∈ notes) :
    (∃ h, s.usable? env.now = some h ∧ token = h.token) ∨
      ∃ ke keyed known key round r,
        Cache.Transition ParameterSet.text env s.keyed (arriving cfg env.now ke) env' keyed known ∧
        .answered (.caller n) key round (.ok r) ∈ known ∧ token = r.value := by
  cases t with
  | serve _ usable =>
    obtain ⟨rfl, rfl⟩ := by simpa using ha
    exact .inl ⟨_, usable, rfl⟩
  | fetched _ t hknown =>
    simp only [List.mem_append, List.mem_map, reduceCtorEq, and_false, exists_false, false_or,
      mem_install_snd, List.mem_singleton] at ha
    obtain ⟨rfl, rfl⟩ := by simpa using ha
    exact .inr ⟨_, _, _, _, _, _, t, hknown, rfl⟩
  | fetch _ _ =>
    split at ha <;> simp at ha
  | resume _ _ _ | refresh _ _ | retry _ _ _ _ _ =>
    simp [mem_arm_snd, mem_install_snd] at ha
  | enter _ _ | keep _ _ | idle _ _ _ | stop _ | discard _ _ | giveUp _ _ _ | keyed _ _ _
  | failed _ _ _ | returned _ _ _ | fire _ _ _ | quit _ _ | cancel _ | addHandle _
  | dropHandle _ => simp at ha

/-- The token cache, in surroundings that change as `world` allows. -/
def system (cfg : Config) (world : Surroundings → State → Surroundings → Prop) :
    System State Event Note :=
  { start := State.start, step := step cfg, world := world }

theorem run_coherent {world : Surroundings → State → Surroundings → Prop}
    {moves : List (Move State Event Note)} (run : (system cfg world).Run moves env s) :
    Cache.Coherent s.keyed := by
  obtain ⟨env₀, path⟩ := run
  refine path.keeps (P := fun _ s => Cache.Coherent s.keyed) ?_ ?_ .empty
  · exact fun h _ => h
  · exact fun h hs => (step_transition hs).coherent h

end TokenCache
end SingleFlight
