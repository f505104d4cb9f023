import SingleFlight.Proofs.Cache.Sources
import SingleFlight.Proofs.TokenCache.Cold
import SingleFlight.Proofs.TokenCache.Outage

/-!
What the token cache makes of a source that fails.

Where the source fails in one way for the parameters of the cache, every round fails so
(`run_only`).  Then no token is held, nothing is armed, and a reader is told that failure and
nothing else (`failure_answered`).  A reader that finds the lock free can be told it
(`can_be_refused`): what carries its request on at the keyed cache does so here (`path_carried`).
-/

namespace SingleFlight
namespace TokenCache

open State

variable {σ : Type} {cfg : Config} {env env₀ env' : Surroundings} {s s' : State}
  {e : Event} {notes : List Note} {n : Nat} {src : Source σ ParameterSet Token} {failure : Failure}
  {moves : List (Move State Event Note)} {m : Move State Event Note}

/-- If a fetch ends in the move, it ends as the source lets it. -/
def Sourced (src : Source σ ParameterSet Token) (m : Move State Event Note) : Prop :=
  ∀ ke, m.event = .keyed ke → Cache.Sourced src m.env m.before.keyed ke

/-! ## What is told -/

/-- What a reader is told is the held token, or what the keyed cache has answered. -/
theorem Transition.answered_result (t : Transition cfg env s e env' s' notes)
    {result : Except ResourceError Token} (ha : .answered n result ∈ notes) :
    (∃ h, s.usable? env.now = some h ∧ result = .ok h.token) ∨
      ∃ ke k known key round o, s.Permits cfg ke ∧
        Cache.Transition ParameterSet.text env s.keyed (arriving cfg env.now ke) env' k known ∧
        .answered (.caller n) key round o ∈ known ∧ result = o.map Resource.value := by
  cases t with
  | serve _ usable =>
    obtain ⟨rfl, rfl⟩ := by simpa using ha
    exact .inl ⟨_, usable, rfl⟩
  | fetched permits t told =>
    simp only [List.mem_append, List.mem_map, reduceCtorEq, and_false, exists_false, false_or,
      mem_install_snd, List.mem_singleton] at ha
    obtain ⟨rfl, rfl⟩ := by simpa using ha
    exact .inr ⟨_, _, _, _, _, _, permits, t, told, rfl⟩
  | failed permits t told =>
    obtain ⟨rfl, rfl⟩ := by simpa using ha
    exact .inr ⟨_, _, _, _, _, _, permits, t, told, rfl⟩
  | fetch _ _ =>
    split at ha <;> simp at ha
  | resume _ _ _ | refresh _ _ | retry _ _ _ _ _ =>
    simp [mem_arm_snd, mem_install_snd] at ha
  | enter _ _ | keep _ _ | idle _ _ _ | stop _ | discard _ _ | giveUp _ _ _ | keyed _ _ _
  | returned _ _ _ | fire _ _ _ | quit _ _ | cancel _ | addHandle _ | dropHandle _ => simp at ha

/-- The failure passes through the refresh window as it is. -/
theorem path_only {world : Surroundings → State → Surroundings → Prop}
    (path : (system cfg world).Path env₀ State.start moves env s)
    (certain : src.Certain cfg.parameters (.returned (.error failure)))
    (sourced : ∀ m ∈ moves, Sourced src m) :
    s.keyed.Only cfg.parameters (.error (failure.classify cfg.parameters.text)) := by
  induction path with
  | nil => exact .empty _ _
  | wait _ _ ih => exact ih sourced
  | @move moves env env' s s' e notes path hs ih =>
    replace ih := ih fun m hm => sourced m (List.mem_append_left _ hm)
    have last : Sourced src _ := sourced _ List.mem_concat_self
    rcases (step_transition hs).on_keyed with ⟨-, same⟩ | ⟨-, n, -, left⟩ | ⟨ke, known, rfl, -, t⟩
    · rw [same]
      exact ih
    · rw [left]
      exact ih
    · refine t.only ih fun n ending r he hr hkey => ?_
      cases ke with
      | finish n' ending' =>
        cases he
        obtain ⟨memory, same⟩ := last _ rfl n ending' r rfl hr
        rw [hkey, certain] at same
        rw [same]
        rfl
      | look _ _ | decide _ | settle _ | drop _ => cases he

theorem run_only (run : (system cfg Clock).Run moves env s)
    (certain : src.Certain cfg.parameters (.returned (.error failure)))
    (sourced : ∀ m ∈ moves, Sourced src m) {round : Nat} {o : Outcome (Resource Token)}
    (ended : s.keyed.outcome? round = some o) :
    o = .error (failure.classify cfg.parameters.text) := by
  obtain ⟨r, hr, ho⟩ := Cache.State.outcome?_eq_some_iff.1 ended
  have hkey := (run_kept run).keys round r hr
  obtain ⟨env₀, path⟩ := run
  exact path_only path certain sourced round r hr hkey o ho

theorem unheld (run : (system cfg Clock).Run moves env s)
    (certain : src.Certain cfg.parameters (.returned (.error failure)))
    (sourced : ∀ m ∈ moves, Sourced src m) : s.held = none ∧ s.timer = none := by
  have forward := run_forward run
  have held : s.held = none := by
    refine Option.eq_none_iff_forall_ne_some.2 fun h hheld => ?_
    obtain ⟨-, r, ended, -⟩ := forward.held h hheld
    cases run_only run certain sourced ended
  refine ⟨held, Option.eq_none_iff_forall_ne_some.2 fun timer armed => ?_⟩
  obtain ⟨h, hheld, -⟩ := forward.tethered.due timer armed
  cases held.symm.trans hheld

/-- A reader that is told anything is told the failure. -/
theorem failure_answered (run : (system cfg Clock).Run moves env s)
    (certain : src.Certain cfg.parameters (.returned (.error failure)))
    (sourced : ∀ m ∈ moves, Sourced src m) (hm : m ∈ moves) {result : Except ResourceError Token}
    (ha : .answered n result ∈ m.notes) :
    result = .error (failure.classify cfg.parameters.text) := by
  obtain ⟨earlier, later, env', rfl, first, hs, -⟩ := run.cut_of_mem hm
  have before : ∀ m ∈ earlier, Sourced src m := fun m hm => sourced m (List.mem_append_left _ hm)
  have upto : (system cfg Clock).Run (earlier ++ [m]) env' m.after := by
    obtain ⟨env₀, path⟩ := first
    exact ⟨env₀, path.move hs⟩
  rcases (step_transition hs).answered_result ha with ⟨h, usable, -⟩ |
    ⟨ke, k, known, key, round, o, permits, t, told, rfl⟩
  · cases (unheld first certain before).1.symm.trans (usable?_eq_some_iff.1 usable).1
  · have ended := t.answered_ended (run_coherent first) told
    obtain rfl := run_only first certain before ended
    rfl

/-! ## Being told -/

/-- The events of the keyed cache that carry a reader's request on where fetches fail so. -/
inductive Carrying (cfg : Config) (n : Nat) (failure : Failure) :
    Cache.Event Agent ParameterSet Token → Prop where
  | look : Carrying cfg n failure (.look (.caller n) cfg.parameters)
  | decide : Carrying cfg n failure (.decide (.caller n))
  | finish (round : Nat) : Carrying cfg n failure (.finish round (.returned (.error failure)))
  | settle : Carrying cfg n failure (.settle (.caller n))

/-- The move of the token cache is one of its keyed cache. -/
structure Mirrors (m : Move State Event Note) (c : Cache.Step Agent ParameterSet Token) :
    Prop where
  env : m.env = c.env
  keyed : m.before.keyed = c.before
  event : m.event = .keyed c.event

theorem Mirrors.sourced {c : Cache.Step Agent ParameterSet Token} (mirrors : Mirrors m c)
    (sourced : Cache.Sourced src c.env c.before c.event) : Sourced src m := by
  intro ke hke
  obtain rfl : c.event = ke := Event.keyed.inj (mirrors.event.symm.trans hke)
  rw [mirrors.env, mirrors.keyed]
  exact sourced

section Carrying

variable {ke : Cache.Event Agent ParameterSet Token} {k : Cache.State Agent ParameterSet Token}
  {known : List (Cache.Note Agent ParameterSet Token)}
  {span : List (Cache.Step Agent ParameterSet Token)}

theorem Carrying.of_next (h : k.next? (.caller n) (.returned (.error failure)) = some ke) :
    Carrying cfg n failure ke := by
  unfold Cache.State.next? at h
  split at h
  · cases h
  · cases h
    exact .decide
  · split at h
    · cases h
      exact .finish _
    · cases h
      exact .settle

theorem Carrying.permits (carrying : Carrying cfg n failure ke)
    (reads : s.callers.get? n = some .fetching) : s.Permits cfg ke := by
  cases carrying with
  | look => exact ⟨mayRequest_caller.2 reads, rfl⟩
  | decide | finish _ | settle => trivial

/-- A failure does not pass through the refresh window. -/
theorem Carrying.arriving_eq (carrying : Carrying cfg n failure ke) (now : Nat) :
    arriving cfg now ke = ke := by
  cases carrying <;> rfl

theorem Carrying.answers (carrying : Carrying cfg n failure ke)
    (t : Cache.Transition ParameterSet.text env s.keyed ke env' k known) {a : Agent}
    {key : ParameterSet} {round : Nat} {o : Outcome (Resource Token)}
    (ha : .answered a key round o ∈ known) : a = .caller n := by
  have asks : ke.caller? = some a := by
    rcases t.answered ha with ⟨_, _, -, looks, -⟩ | ⟨rfl, -⟩
    · exact looks.caller?
    · rfl
  cases carrying with
  | look | decide | settle => exact (Option.some.inj asks).symm
  | finish _ => cases asks

/-- A move that the keyed cache can make carries the reader on or answers it. -/
theorem Carrying.step (carrying : Carrying cfg n failure ke)
    (reads : s.callers.get? n = some .fetching)
    (hs : Cache.step ParameterSet.text env s.keyed ke = some (env', k, known)) :
    known.findSome? Cache.Note.answer? = none ∧
        step cfg env s (.keyed ke) = some (env', { s with keyed := k }, known.map .keyed) ∨
      ∃ s' notes result, step cfg env s (.keyed ke) = some (env', s', notes) ∧
        .answered n result ∈ notes := by
  rw [step_permitted env (carrying.permits reads)]
  unfold keyedStep
  simp only [carrying.arriving_eq, hs]
  cases answers : known.findSome? Cache.Note.answer? with
  | none => exact .inl ⟨rfl, rfl⟩
  | some answer =>
    right
    obtain ⟨a, round, o⟩ := answer
    obtain ⟨key, ha⟩ := Cache.Note.answered_of_findSome? answers
    obtain rfl := carrying.answers (Cache.step_transition hs) ha
    cases o with
    | ok r => exact ⟨_, _, _, rfl, List.mem_append_right _ (List.mem_append_right _ (.head _))⟩
    | error e => exact ⟨_, _, _, rfl, List.mem_append_right _ (.head _)⟩

/-- What carries the request on at the keyed cache does so here, up to the answer. -/
theorem path_carried (world : Surroundings → State → Surroundings → Prop)
    (reads : s.callers.get? n = some .fetching)
    (path : (Cache.system ParameterSet.text fun _ _ _ => False).Path env s.keyed span env' k)
    (carrying : ∀ c ∈ span, Carrying cfg n failure c.event) :
    ∃ moves env₁ s₁, (system cfg world).Path env s moves env₁ s₁ ∧
      (∀ m ∈ moves, ∃ c ∈ span, Mirrors m c) ∧
      (env₁ = env' ∧ s₁ = { s with keyed := k } ∧
          (∀ c ∈ span, c.notes.findSome? Cache.Note.answer? = none) ∨
        ∃ m ∈ moves, ∃ result, .answered n result ∈ m.notes) := by
  induction path with
  | nil =>
    exact ⟨[], env, s, .nil, List.forall_mem_nil _, .inl ⟨rfl, rfl, List.forall_mem_nil _⟩⟩
  | wait _ never _ => exact never.elim
  | @move span env₂ env' k₂ k ke known path hs ih =>
    obtain ⟨moves, env₁, s₁, first, mirrored, reached⟩ :=
      ih fun c hc => carrying c (List.mem_append_left _ hc)
    replace mirrored : ∀ m ∈ moves, ∃ c ∈ span ++ [⟨env₂, k₂, ke, known, k⟩], Mirrors m c :=
      fun m hm => (mirrored m hm).imp fun c => .imp_left (List.mem_append_left _)
    rcases reached with ⟨rfl, rfl, silent⟩ | told
    · have last : ∀ {notes s'}, ∃ c ∈ span ++ [⟨env₁, k₂, ke, known, k⟩],
          Mirrors ⟨env₁, { s with keyed := k₂ }, .keyed ke, notes, s'⟩ c :=
        ⟨_, List.mem_concat_self, rfl, rfl, rfl⟩
      rcases (carrying _ List.mem_concat_self).step (s := { s with keyed := k₂ }) reads hs with
        ⟨quiet, steps⟩ | ⟨s', notes, result, steps, ha⟩
      · have taken : (system cfg world).step env₁ { s with keyed := k₂ } (.keyed ke) =
          some (env', { s with keyed := k }, known.map .keyed) := steps
        exact ⟨_, _, _, first.move taken,
          List.forall_mem_append.2 ⟨mirrored, List.forall_mem_singleton.2 last⟩,
          .inl ⟨rfl, rfl, List.forall_mem_append.2 ⟨silent, List.forall_mem_singleton.2 quiet⟩⟩⟩
      · have taken : (system cfg world).step env₁ { s with keyed := k₂ } (.keyed ke) =
          some (env', s', notes) := steps
        exact ⟨_, _, _, first.move taken,
          List.forall_mem_append.2 ⟨mirrored, List.forall_mem_singleton.2 last⟩,
          .inr ⟨_, List.mem_concat_self, result, ha⟩⟩
    · exact ⟨moves, env₁, s₁, first, mirrored, .inr told⟩

/-- A reader that finds the lock free and no token comes to fetch. -/
theorem can_fetch (cfg : Config) (world : Surroundings → State → Surroundings → Prop)
    (unusable : s.usable? env.now = none) (unlocked : s.holder = none)
    (free : s.callers.get? n = none) (reachable : 0 < s.handles) :
    ∃ span s', (system cfg world).Path env s span env s' ∧ s'.keyed = s.keyed ∧
      s'.callers.get? n = some .fetching ∧ ∀ m ∈ span, ∀ ke, m.event ≠ .keyed ke := by
  let queued : State :=
    { s with callers := s.callers.insert n (.queued .get), holder := some (.caller n) }
  let fetching : State := { queued with callers := queued.callers.insert n .fetching }
  have enters : (system cfg world).step env s (.enter n .get) = some (env, queued, []) := by
    simp [system, step, free, reachable, lock, unlocked, queued]
  have acts : ∃ notes, (system cfg world).step env queued (.act (.caller n)) =
      some (env, fetching, notes) := by
    have still : queued.usable? env.now = none := unusable
    simp [system, step, act, queued, still, fetching]
  obtain ⟨notes, acts⟩ := acts
  refine ⟨_, fetching, (System.Path.nil.move enters).move acts, rfl, Table.get?_insert_self _ _ _,
    fun m hm => ?_⟩
  simp only [List.nil_append, List.cons_append, List.mem_cons, List.not_mem_nil, or_false] at hm
  rcases hm with rfl | rfl <;> exact fun _ => Event.noConfusion

/-- Such a reader can be answered, with fetches that end as those of the source do. -/
theorem can_be_answered (world : Surroundings → State → Surroundings → Prop)
    (forward : Forward cfg env.now s)
    (certain : src.Certain cfg.parameters (.returned (.error failure))) (memory : σ)
    (unusable : s.usable? env.now = none) (unlocked : s.holder = none)
    (free : s.callers.get? n = none) (reachable : 0 < s.handles) :
    ∃ span env' s', (system cfg world).Path env s span env' s' ∧ (∀ m ∈ span, Sourced src m) ∧
      ∃ m ∈ span, ∃ result, .answered n result ∈ m.notes := by
  have idle : s.keyed.callers.get? (.caller n) = none := by
    refine forward.orderly.not_at_work fun requests => ?_
    cases free.symm.trans (mayRequest_caller.1 requests)
  obtain ⟨opening, s₁, enters, hkeyed, reads, aside⟩ :=
    can_fetch cfg world unusable unlocked free reachable
  obtain ⟨asked, env₂, k, asks, request, driven, c, hc, round, o, answers⟩ :=
    @Cache.Coherent.can_request _ _ _ _ _ ParameterSet.text (fun _ _ _ => False) _ _
      forward.coherent idle cfg.parameters env (.returned (.error failure))
  have ends := request.sourced asks forward.coherent certain memory driven
  have carrying : ∀ c ∈ asked, Carrying cfg n failure c.event := by
    intro c hc
    rcases driven c hc with looks | next
    · rw [looks]
      exact .look
    · exact .of_next next
  rw [← hkeyed] at asks
  obtain ⟨carried, env₃, s₃, path, mirrored, reached⟩ := path_carried world reads asks carrying
  obtain ⟨m, hm, result, ha⟩ := reached.resolve_left fun through =>
    Cache.Note.not_answered_of_findSome? (through.2.2 c hc) _ _ _ _ answers
  refine ⟨_, env₃, s₃, enters.trans path, List.forall_mem_append.2 ⟨fun m hm ke hke => ?_,
    fun m hm => ?_⟩, m, List.mem_append_right _ hm, result, ha⟩
  · exact absurd hke (aside m hm ke)
  · obtain ⟨c, hc, mirrors⟩ := mirrored m hm
    exact mirrors.sourced (ends c hc)

/-- A reader that finds the lock free can be told the failure. -/
theorem can_be_refused (run : (system cfg Clock).Run moves env s)
    (certain : src.Certain cfg.parameters (.returned (.error failure)))
    (sourced : ∀ m ∈ moves, Sourced src m) (memory : σ) (unlocked : s.holder = none)
    (free : s.callers.get? n = none) (reachable : 0 < s.handles) :
    ∃ span env' s', (system cfg Clock).Path env s span env' s' ∧ (∀ m ∈ span, Sourced src m) ∧
      ∃ m ∈ span, .answered n (.error (failure.classify cfg.parameters.text)) ∈ m.notes := by
  have unusable : s.usable? env.now = none := by
    rw [usable?, (unheld run certain sourced).1]
    rfl
  obtain ⟨span, env', s', path, onward, m, hm, result, ha⟩ :=
    can_be_answered Clock (run_forward run) certain memory unusable unlocked free reachable
  obtain ⟨env₀, first⟩ := run
  obtain rfl := failure_answered ⟨env₀, first.trans path⟩ certain
    (List.forall_mem_append.2 ⟨sourced, onward⟩) (List.mem_append_right _ hm) ha
  exact ⟨span, env', s', path, onward, m, hm, ha⟩

end Carrying

end TokenCache
end SingleFlight
