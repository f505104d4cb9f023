import SingleFlight.Proofs.TokenCache.Forward

/-!
What the token cache makes of an answer.

The keyed cache answers one agent at a time.  A caller hands the answer on at once, and the token in
it is installed first if there is one.  A refresh keeps the answer until it has the lock.
-/

namespace SingleFlight
namespace Cache

variable {ι κ α : Type} [DecidableEq ι] [DecidableEq κ] {describe : κ → String}
  {env env' : Surroundings} {s s' : State ι κ α} {e : Event ι κ α} {notes : List (Note ι κ α)}

theorem Transition.answered_unique (t : Transition describe env s e env' s' notes) {c c' : ι}
    {key key' : κ} {n n' : Nat} {o o' : Outcome (Resource α)}
    (ha : .answered c key n o ∈ notes) (ha' : .answered c' key' n' o' ∈ notes) :
    c' = c ∧ key' = key ∧ n' = n ∧ o' = o := by
  cases t with
  | hit _ _ _ | promote _ _ _ _ | settle _ _ =>
    simp only [List.mem_cons, reduceCtorEq, Note.answered.injEq, List.not_mem_nil, or_false,
      false_or] at ha ha'
    obtain ⟨rfl, rfl, rfl, rfl⟩ := ha
    exact ha'
  | join _ _ _ | defer _ _ _ | miss _ _ _ _ | finish _ _ _ | drop _ => simp at ha

omit [DecidableEq κ] in
theorem Looks.not_awaiting {c : ι} {key key' : κ} {n : Nat} {path : Path}
    (looks : Looks s c key e path) : s.callers.get? c ≠ some (.awaiting key' n) := by
  intro awaits
  cases looks with
  | first new => cases new.symm.trans awaits
  | second undecided => cases undecided.symm.trans awaits

end Cache

namespace TokenCache

open State

/-- The answer has gone to the agent, and its token has been installed if the agent is a caller. -/
def PassedOn (s : State) (notes : List Note) (round : Nat) (o : Outcome (Resource Token)) :
    Agent → Prop
  | .caller n => .answered n (o.map Resource.value) ∈ notes ∧
      ∀ r, o = .ok r → .installed (heldOf round r) ∈ notes ∧ s.held = some (heldOf round r)
  | .refresh t => s.tasks.get? t = some (.returned round o)

variable {cfg : Config} {env env' env₀ : Surroundings} {s s' s₀ : State} {e : Event}
  {notes : List Note}

theorem Transition.passes_on (t : Transition cfg env s e env' s' notes) {a : Agent}
    {key : ParameterSet} {round : Nat} {o : Outcome (Resource Token)}
    (ha : .keyed (.answered a key round o) ∈ notes) : PassedOn s' notes round o a := by
  cases t with
  | keyed _ _ silent =>
    exact absurd (by simpa using ha) (silent a key round o)
  | @fetched _ _ _ known n _ _ r _ t told =>
    have same : .answered a key round o ∈ known := by simpa [mem_install_snd] using ha
    obtain ⟨rfl, -, rfl, rfl⟩ := t.answered_unique told same
    refine ⟨by simp [Except.map], fun r' hr => ?_⟩
    obtain rfl : r = r' := by simpa using hr
    exact ⟨by simp [mem_install_snd], by simp only [State.leave, unlock, install_fst, arm_fst]⟩
  | failed _ t told =>
    have same := by simpa using ha
    obtain ⟨rfl, -, rfl, rfl⟩ := t.answered_unique told same
    exact ⟨by simp [Except.map], fun _ hr => by cases hr⟩
  | returned _ t told =>
    have same := by simpa using ha
    obtain ⟨rfl, -, rfl, rfl⟩ := t.answered_unique told same
    rw [lock_eq]
    exact Table.get?_insert_self _ _ _
  | fetch _ _ => split at ha <;> simp at ha
  | resume _ _ _ | refresh _ _ | retry _ _ _ _ _ => simp [mem_arm_snd, mem_install_snd] at ha
  | enter _ _ | serve _ _ | keep _ _ | idle _ _ _ | stop _ | discard _ _ | giveUp _ _ _
  | fire _ _ _ | quit _ _ | cancel _ | addHandle _ | dropHandle _ => simp at ha

section Run

variable {world : Surroundings → State → Surroundings → Prop} {moves : List (Move State Event Note)}
  {m : Move State Event Note} {n : Nat} {o : Outcome (Resource Token)}

/-- The outcome of a round stays along a path. -/
theorem path_outcome (path : (system cfg world).Path env₀ s₀ moves env s)
    (coherent : Cache.Coherent s₀.keyed) (h : s₀.keyed.outcome? n = some o) :
    s.keyed.outcome? n = some o := by
  have kept : Cache.Coherent s.keyed ∧ s.keyed.outcome? n = some o := by
    refine path.keeps
      (P := fun _ s => Cache.Coherent s.keyed ∧ s.keyed.outcome? n = some o) ?_ ?_ ⟨coherent, h⟩
    · exact fun h _ => h
    · intro env s e env' s' notes h hs
      have t := step_transition hs
      exact ⟨t.coherent h.1, t.outcome?_stays h.1 h.2⟩
  exact kept.2

/-- What the keyed cache has answered is the outcome of the round. -/
theorem outcome_of_answered (run : (system cfg world).Run moves env s) (hm : m ∈ moves) {a : Agent}
    {key : ParameterSet} (ha : .keyed (.answered a key n o) ∈ m.notes) :
    s.keyed.outcome? n = some o := by
  refine run.since (I := fun s => Cache.Coherent s.keyed)
    (P := fun s => s.keyed.outcome? n = some o) hm run_coherent (fun coherent hs => ?_)
    fun coherent ended hs => (step_transition hs).outcome?_stays coherent ended
  have t := step_transition hs
  refine t.outcome?_stays coherent ?_
  obtain ⟨ke, hke⟩ := t.keyed_of_told ha
  rw [hke] at t
  obtain ⟨-, _, t, told⟩ := t.of_keyed
  exact t.answered_ended coherent ((told _).1 ha)

end Run

end TokenCache
end SingleFlight
