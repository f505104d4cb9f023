import SingleFlight.Validity

/-!
Runs of systems.

A system takes one step after another, each in the surroundings of its moment.  Between two steps
the surroundings change without it, and `world` says how they may.  A `Path` is a sequence of steps
from one state to another, and a `Run` is a path from where the system starts.  The moves of a path
are kept in order, with all that was to be seen of them, so that a statement about a run can be a
statement about its moves.

What waiting and every move keep holds at the end of a path (`Path.keeps`), and a path can be cut
before any of its moves (`Path.cut`), which makes the state before each move one that a run leads
to (`Run.cut_of_mem`).  So what one move brings about can be followed to the end (`Run.since`).
-/

namespace SingleFlight

structure System (σ ε ν : Type) where
  start : σ
  step : Surroundings → σ → ε → Option (Surroundings × σ × List ν)
  /-- What the surroundings may become while the system stands still in a state. -/
  world : Surroundings → σ → Surroundings → Prop

/-- One step, in the surroundings in which it was taken. -/
structure Move (σ ε ν : Type) where
  env : Surroundings
  before : σ
  event : ε
  notes : List ν
  after : σ

/-- One more move counts or does not. -/
theorem countP_concat {β : Type} (p : β → Bool) (l : List β) (b : β) :
    (l ++ [b]).countP p = l.countP p + (p b).toNat := by
  cases h : p b <;> simp [h]

namespace System

variable {σ ε ν : Type}

/-- The moves lead from a state in its surroundings to another one. -/
inductive Path (S : System σ ε ν) (env₀ : Surroundings) (s₀ : σ) :
    List (Move σ ε ν) → Surroundings → σ → Prop where
  | nil : Path S env₀ s₀ [] env₀ s₀
  | wait {moves : List (Move σ ε ν)} {env env' : Surroundings} {s : σ} :
      Path S env₀ s₀ moves env s → S.world env s env' → Path S env₀ s₀ moves env' s
  | move {moves : List (Move σ ε ν)} {env env' : Surroundings} {s s' : σ} {e : ε}
      {notes : List ν} :
      Path S env₀ s₀ moves env s → S.step env s e = some (env', s', notes) →
      Path S env₀ s₀
        (moves ++ [{ env := env, before := s, event := e, notes := notes, after := s' }]) env' s'

/-- The moves lead from the start of the system, in any surroundings, to the state. -/
def Run (S : System σ ε ν) (moves : List (Move σ ε ν)) (env : Surroundings) (s : σ) : Prop :=
  ∃ env₀, S.Path env₀ S.start moves env s

variable {S : System σ ε ν} {env₀ env env' : Surroundings} {s₀ s s' : σ}
  {moves earlier later : List (Move σ ε ν)} {m : Move σ ε ν}

/-- What the surroundings cannot spoil and no step spoils is kept along a path. -/
theorem Path.keeps {P : Surroundings → σ → Prop}
    (waits : ∀ {env s env'}, P env s → S.world env s env' → P env' s)
    (steps : ∀ {env s e env' s' notes}, P env s → S.step env s e = some (env', s', notes) →
      P env' s')
    (path : S.Path env₀ s₀ moves env s) (h : P env₀ s₀) : P env s := by
  induction path with
  | nil => exact h
  | wait _ hw ih => exact waits ih hw
  | move _ hs ih => exact steps ih hs

/-- A path is one in any world that allows as much. -/
theorem Path.mono {world : Surroundings → σ → Surroundings → Prop}
    (path : S.Path env₀ s₀ moves env s)
    (allows : ∀ {env s env'}, S.world env s env' → world env s env') :
    ({ S with world := world }).Path env₀ s₀ moves env s := by
  induction path with
  | nil => exact .nil
  | wait _ hw ih => exact ih.wait (allows hw)
  | move _ hs ih => exact ih.move hs

theorem Path.trans (first : S.Path env₀ s₀ earlier env s) (second : S.Path env s later env' s') :
    S.Path env₀ s₀ (earlier ++ later) env' s' := by
  induction second with
  | nil => simpa using first
  | wait _ hw ih => exact ih.wait hw
  | move _ hs ih =>
    rw [← List.append_assoc]
    exact ih.move hs

theorem Path.cut (path : S.Path env₀ s₀ moves env s) (h : moves = earlier ++ m :: later) :
    ∃ env', S.Path env₀ s₀ earlier m.env m.before ∧
      S.step m.env m.before m.event = some (env', m.after, m.notes) ∧
      S.Path env' m.after later env s := by
  induction path generalizing later with
  | nil => simp at h
  | wait _ hw ih =>
    obtain ⟨env', first, hs, second⟩ := ih h
    exact ⟨env', first, hs, second.wait hw⟩
  | move path hs ih =>
    rcases List.eq_nil_or_concat later with rfl | ⟨rest, last, rfl⟩
    · obtain ⟨rfl, hm⟩ := List.append_inj' h rfl
      obtain rfl := (List.singleton_inj.1 hm).symm
      exact ⟨_, path, hs, .nil⟩
    · rw [List.concat_eq_append, ← List.cons_append, ← List.append_assoc] at h
      obtain ⟨hmoves, hlast⟩ := List.append_inj' h rfl
      obtain ⟨env', first, hfirst, second⟩ := ih hmoves
      obtain rfl := List.singleton_inj.1 hlast
      refine ⟨env', first, hfirst, ?_⟩
      rw [List.concat_eq_append]
      exact second.move hs

/-- Before each of its moves a run is in a state that a run leads to. -/
theorem Run.cut_of_mem (run : S.Run moves env s) (hm : m ∈ moves) :
    ∃ earlier later env', moves = earlier ++ m :: later ∧ S.Run earlier m.env m.before ∧
      S.step m.env m.before m.event = some (env', m.after, m.notes) ∧
      S.Path env' m.after later env s := by
  obtain ⟨env₀, path⟩ := run
  obtain ⟨earlier, later, rfl⟩ := List.append_of_mem hm
  obtain ⟨env', first, hs, second⟩ := path.cut rfl
  exact ⟨earlier, later, env', rfl, ⟨env₀, first⟩, hs, second⟩

/-- What a move makes true and no later step spoils is true at the end of a run.  The steps may rely
on what holds in every state that a run leads to. -/
theorem Run.since {I P : σ → Prop} (run : S.Run moves env s) (hm : m ∈ moves)
    (holds : ∀ {moves env s}, S.Run moves env s → I s)
    (made : ∀ {env'}, I m.before → S.step m.env m.before m.event = some (env', m.after, m.notes) →
      P m.after)
    (kept : ∀ {env s e env' s' notes}, I s → P s → S.step env s e = some (env', s', notes) →
      P s') : P s := by
  obtain ⟨_, _, env', -, ⟨env₀, first⟩, hs, rest⟩ := run.cut_of_mem hm
  have after : ∃ moves, S.Run moves env' m.after := ⟨_, env₀, first.move hs⟩
  refine (rest.keeps (P := fun env s => (∃ moves, S.Run moves env s) ∧ P s) ?_ ?_
    ⟨after, made (holds ⟨env₀, first⟩) hs⟩).2
  · rintro env s env' ⟨⟨moves, env₀, path⟩, h⟩ hw
    exact ⟨⟨moves, env₀, path.wait hw⟩, h⟩
  · rintro env s e env' s' notes ⟨⟨moves, env₀, path⟩, h⟩ hs
    exact ⟨⟨_, env₀, path.move hs⟩, kept (holds ⟨env₀, path⟩) h hs⟩

/-- From before the first of consecutive moves a path leads to before each of them. -/
theorem Path.between {f l : Move σ ε ν} (path : S.Path env₀ s₀ moves env s)
    (h : moves = earlier ++ f :: later) (hl : l ∈ f :: later) :
    ∃ moves', S.Path f.env f.before moves' l.env l.before := by
  obtain ⟨_, _, hs, rest⟩ := path.cut h
  rcases List.mem_cons.1 hl with rfl | hl
  · exact ⟨[], .nil⟩
  · obtain ⟨before, after, rfl⟩ := List.append_of_mem hl
    obtain ⟨_, first, _, _⟩ := rest.cut rfl
    exact ⟨_, (Path.nil.move hs).trans first⟩

/-! ## Concrete paths -/

/-- The path on which the events happen one after another and nothing else does, if they can. -/
def replay (S : System σ ε ν) :
    Surroundings → σ → List ε → Option (List (Move σ ε ν) × Surroundings × σ)
  | env, s, [] => some ([], env, s)
  | env, s, e :: es =>
    match S.step env s e with
    | none => none
    | some (env', s', notes) =>
      match S.replay env' s' es with
      | none => none
      | some (moves, last) =>
        some ({ env := env, before := s, event := e, notes := notes, after := s' } :: moves, last)

theorem Path.of_replay (es : List ε) (h : S.replay env s es = some (moves, env', s')) :
    S.Path env s moves env' s' := by
  induction es generalizing env s moves with
  | nil =>
    obtain ⟨rfl, rfl, rfl⟩ := by simpa [replay] using h
    exact .nil
  | cons e es ih =>
    unfold replay at h
    split at h
    · cases h
    · rename_i hs
      split at h
      · cases h
      · rename_i hr
        obtain ⟨rfl, rfl⟩ := by simpa using h
        exact (Path.nil.move hs).trans (ih hr)

end System
end SingleFlight
