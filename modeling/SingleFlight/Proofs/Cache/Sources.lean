import SingleFlight.Proofs.Cache.Progress
import SingleFlight.Source

/-!
What a cache makes of what a source gives.

A run of a cache lets every fetch end in any way.  It is `Sourced` if its fetches end as those of
the source do.  Where the source has one ending for a key, whenever it is called, all that is ever
told of the key is the outcome of that ending (`answered_certain`), and whoever asks for the key can
be told it (`can_be_told`).
-/

namespace SingleFlight

/-- However often the source has been called, and whenever it is called, a fetch of the key ends
so. -/
def Source.Certain {σ κ α : Type} (src : Source σ κ α) (key : κ) (ending : Ending (Resource α)) :
    Prop :=
  ∀ memory now env, ((src.call memory key now).1.ending env).2 = ending

namespace Cache

variable {σ ι κ α : Type}

/-- If the event is the end of a fetch, the source gives such an end to a fetch of the round. -/
def Sourced (src : Source σ κ α) (env : Surroundings) (s : State ι κ α) (e : Event ι κ α) : Prop :=
  ∀ n ending r, e = .finish n ending → s.rounds n = some r →
    ∃ memory, ending = ((src.call memory r.key r.startedAt).1.ending env).2

/-- Rounds of the key have no other outcome. -/
def State.Only (s : State ι κ α) (key : κ) (o : Outcome (Resource α)) : Prop :=
  ∀ n r, s.rounds n = some r → r.key = key → ∀ o', r.outcome = some o' → o' = o

theorem State.Only.empty (key : κ) (o : Outcome (Resource α)) :
    (State.empty : State ι κ α).Only key o := nofun

variable [DecidableEq ι] [DecidableEq κ] {describe : κ → String} {env env₀ env' : Surroundings}
  {s s₀ s' : State ι κ α} {e : Event ι κ α} {notes : List (Note ι κ α)} {key : κ} {caller : ι}
  {src : Source σ κ α} {ending : Ending (Resource α)} {o : Outcome (Resource α)} {n : Nat}

/-- The rounds are as before, but for one that is new or has ended. -/
theorem Transition.only (t : Transition describe env s e env' s' notes) (h : s.Only key o)
    (ends : ∀ n ending r, e = .finish n ending → s.rounds n = some r → r.key = key →
      ending.outcome (describe key) = o) : s'.Only key o := by
  cases t with
  | @miss c key' _ _ _ _ _ =>
    intro n r hr hkey o' ho
    by_cases new : n = s.started
    · subst new
      simp only [State.startRound, Round.store_self, Option.some.injEq] at hr
      subst hr
      cases ho
    · exact h n r (by simpa [State.startRound, Round.store_of_ne _ _ new] using hr) hkey o' ho
  | @finish m r₀ ending hround _ _ =>
    intro n r hr hkey o' ho
    by_cases same : n = m
    · subst same
      simp only [Round.store_self, Option.some.injEq] at hr
      subst hr
      subst hkey
      exact (Option.some.inj ho).symm.trans (ends n ending r₀ rfl hround rfl)
    · exact h n r (by simpa [Round.store_of_ne _ _ same] using hr) hkey o' ho
  | hit _ _ _ | join _ _ _ | defer _ _ _ | promote _ _ _ _ | settle _ _ | drop _ => exact h

omit [DecidableEq ι] [DecidableEq κ] in
theorem Sourced.outcome (sourced : Sourced src env s e) (certain : src.Certain key ending)
    (n : Nat) (ending' : Ending (Resource α)) (r : Round κ α) (he : e = .finish n ending')
    (hr : s.rounds n = some r) (hkey : r.key = key) :
    ending'.outcome (describe key) = ending.outcome (describe key) := by
  obtain ⟨memory, rfl⟩ := sourced n ending' r he hr
  rw [hkey, certain]

omit [DecidableEq κ] in
theorem State.awaiting_of_next {ending' : Ending (Resource α)}
    (h : s.next? caller ending = some (.finish n ending')) :
    ∃ key, s.callers.get? caller = some (.awaiting key n) ∧ ending' = ending := by
  unfold State.next? at h
  split at h
  · cases h
  · cases h
  next key n' awaits =>
    split at h
    · cases h
      exact ⟨key, awaits, rfl⟩
    · cases h

section Run

variable {world : Surroundings → State ι κ α → Surroundings → Prop} {moves : List (Step ι κ α)}

theorem path_only (path : (system describe world).Path env₀ State.empty moves env s)
    (certain : src.Certain key ending)
    (sourced : ∀ m ∈ moves, Sourced src m.env m.before m.event) :
    s.Only key (ending.outcome (describe key)) := by
  induction path with
  | nil => exact .empty _ _
  | wait _ _ ih => exact ih sourced
  | @move moves env env' s s' e notes path hs ih =>
    have last : Sourced src env s e := sourced _ List.mem_concat_self
    exact (step_transition hs).only (ih fun m hm => sourced m (List.mem_append_left _ hm))
      (last.outcome certain)

/-- Who is told anything of the key is told that outcome. -/
theorem answered_certain (run : (system describe world).Run moves env s)
    (certain : src.Certain key ending) (sourced : ∀ m ∈ moves, Sourced src m.env m.before m.event)
    {m : Step ι κ α} (hm : m ∈ moves) (ha : .answered caller key n o ∈ m.notes) :
    o = ending.outcome (describe key) := by
  obtain ⟨r, hr, hkey, ho⟩ := answered_outcome run hm ha
  obtain ⟨env₀, path⟩ := run
  exact path_only path certain sourced n r hr hkey o ho

/-- The end of the fetch that a request waits for is that of its key. -/
theorem Request.sourced {span : List (Step ι κ α)} (request : Request caller key span)
    (path : (system describe world).Path env₀ s₀ span env s) (h : Coherent s₀)
    (certain : src.Certain key ending) (memory : σ)
    (driven : ∀ m ∈ span, m.event = .look caller key ∨
      m.before.next? caller ending = some m.event) :
    ∀ m ∈ span, Sourced src m.env m.before m.event := by
  refine request.keeps path h
    (P := fun span _ => (∀ m ∈ span, m.event = .look caller key ∨
        m.before.next? caller ending = some m.event) →
      ∀ m ∈ span, Sourced src m.env m.before m.event)
    (fun {m} _ _ looks _ _ m' hm' => ?_)
    (fun {span m} _ _ coherent _ kept hc hkey _ driven m' hm' => ?_) driven
  · obtain rfl := List.mem_singleton.1 hm'
    intro n ending' r he
    rw [he] at looks
    cases looks
  · rcases List.mem_append.1 hm' with hm' | hm'
    · exact kept (fun m hm => driven m (List.mem_append_left _ hm)) m' hm'
    · obtain rfl := List.mem_singleton.1 hm'
      intro n ending' r he hr
      rcases driven m' List.mem_concat_self with looks | next
      · rw [looks] at he
        cases he
      · rw [he] at next
        obtain ⟨key', awaits, rfl⟩ := State.awaiting_of_next next
        obtain ⟨r', hr', hkey'⟩ := coherent.awaited _ _ _ awaits
        obtain rfl : r' = r := by simpa using hr'.symm.trans hr
        obtain rfl := Option.some.inj (hc.symm.trans awaits)
        refine ⟨memory, ?_⟩
        subst hkey'
        subst hkey
        exact (certain memory _ _).symm

/-- Whoever asks for the key can be told that outcome, with fetches that end as those of the source
do. -/
theorem can_be_told (run : (system describe world).Run moves env s)
    (certain : src.Certain key ending) (sourced : ∀ m ∈ moves, Sourced src m.env m.before m.event)
    (memory : σ) (free : s.callers.get? caller = none) :
    ∃ span env' s', (system describe world).Path env s span env' s' ∧
      (∀ m ∈ span, Sourced src m.env m.before m.event) ∧
      ∃ m ∈ span, ∃ n, .answered caller key n (ending.outcome (describe key)) ∈ m.notes := by
  have coherent := run_coherent run
  obtain ⟨span, env', s', path, request, driven, m, hm, n, o, ha⟩ :=
    @Coherent.can_request ι κ α _ _ describe world s caller coherent free key env ending
  have onward := request.sourced path coherent certain memory driven
  obtain ⟨env₀, first⟩ := run
  obtain rfl := answered_certain ⟨env₀, first.trans path⟩ certain
    (List.forall_mem_append.2 ⟨sourced, onward⟩) (List.mem_append_right _ hm) ha
  exact ⟨span, env', s', path, onward, m, hm, n, ha⟩

end Run
end Cache
end SingleFlight
