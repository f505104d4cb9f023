import SingleFlight.Proofs.Cache.Course

/-!
Requests come to their end.

Callers go away at any time, and may leave a round behind that nobody drives, or one that has ended
and that nobody has settled.  Neither stands in the way of a request: at most four events lead from
the first look to the answer, whatever others do in between.

What happens in the course of one request is shown along its moves: `Request.keeps` starts at the
first look and goes on from one stage of the caller to the next.
-/

namespace SingleFlight
namespace Cache

variable {ι κ α : Type} [DecidableEq ι]

/-- The moves that are the caller's own. -/
def ownMoves (caller : ι) (span : List (Step ι κ α)) : List (Step ι κ α) :=
  span.filter fun m => m.event.caller? == some caller

variable [DecidableEq κ]

/-! ## The course of a request -/

section Run

variable {describe : κ → String} {world : Surroundings → State ι κ α → Surroundings → Prop}
  {moves span : List (Step ι κ α)} {env env₀ : Surroundings} {s s₀ : State ι κ α} {caller : ι}
  {key : κ}

omit [DecidableEq κ] in
theorem Request.without_last {m : Step ι κ α} (request : Request caller key (span ++ [m]))
    (some_moves : span ≠ []) : Request caller key span := by
  obtain ⟨first, rest, hspan, looks⟩ := request.opens
  cases span with
  | nil => exact absurd rfl some_moves
  | cons first' rest' =>
    obtain ⟨rfl, rfl⟩ := List.cons.inj hspan
    exact ⟨⟨_, rest', rfl, looks⟩, fun m' hm' => request.stays m' (List.mem_append_left _ hm')⟩

/-- What the first look of a request brings about, and each later step keeps, holds while the
request lasts. -/
theorem Request.keeps {P : List (Step ι κ α) → State ι κ α → Prop}
    (request : Request caller key span) (path : (system describe world).Path env₀ s₀ span env s)
    (h : Coherent s₀)
    (first : ∀ {m env'}, Coherent m.before → Looks m.before caller key m.event .firstLook →
      Transition describe m.env m.before m.event env' m.after m.notes → P [m] m.after)
    (next : ∀ {span m env' stage}, Coherent m.before → Request caller key span → P span m.before →
      m.before.callers.get? caller = some stage → stage.key = key →
      Transition describe m.env m.before m.event env' m.after m.notes → P (span ++ [m]) m.after) :
    P span s := by
  -- The key of the stage is carried along, because a request tells only that there is a stage.
  suffices kept : P span s ∧ ∀ stage, s.callers.get? caller = some stage → stage.key = key from
    kept.1
  induction path with
  | nil =>
    obtain ⟨_, _, none, -⟩ := request.opens
    cases none
  | wait _ _ ih => exact ih request
  | @move moves env env' s s' e notes path hs ih =>
    have t := step_transition hs
    have coherent := path_coherent path h
    rcases List.eq_nil_or_concat moves with rfl | ⟨_, _, hmoves⟩
    · obtain ⟨m, rest, hspan, looks⟩ := request.opens
      obtain ⟨rfl, -⟩ := List.cons.inj hspan
      refine ⟨first coherent looks t, fun stage hc => ?_⟩
      cases t.opening coherent looks with
      | defers undecided _ _ => obtain rfl := Option.some.inj (undecided.symm.trans hc); rfl
      | joins n awaits _ _ _ => obtain rfl := Option.some.inj (awaits.symm.trans hc); rfl
      | ends _ _ gone _ _ _ => rw [gone] at hc; cases hc
    · have some_moves : moves ≠ [] := by simp [hmoves]
      have request' := request.without_last some_moves
      obtain ⟨kept, stageKey⟩ := ih request'
      obtain ⟨stage, hc⟩ : ∃ stage, s.callers.get? caller = some stage := by
        refine request.stays ⟨env, s, e, notes, s'⟩ ?_
        rw [List.tail_append_of_ne_nil some_moves]
        exact List.mem_append_right _ (List.mem_singleton.2 rfl)
      have hkey := stageKey stage hc
      refine ⟨next coherent request' kept hc hkey t, fun stage' hc' => ?_⟩
      cases t.course hc with
      | stays _ same _ => obtain rfl := Option.some.inj (same.symm.trans hc'); exact hkey
      | boards n _ _ awaits _ _ =>
        obtain rfl := Option.some.inj (awaits.symm.trans hc')
        exact hkey
      | ends _ _ _ gone _ _ _ => rw [gone] at hc'; cases hc'
      | leaves _ gone _ => rw [gone] at hc'; cases hc'

omit [DecidableEq κ] in
theorem called_ownMoves_concat {m : Step ι κ α} (own : m.event.caller? = some caller) :
    called (ownMoves caller (span ++ [m])) =
      called (ownMoves caller span) ++ m.notes.filterMap Note.called? := by
  simp [called, ownMoves, own]

omit [DecidableEq κ] in
/-- A move that is not the caller's, or that calls no fetch, does not count. -/
theorem called_ownMoves_same {m : Step ι κ α}
    (h : m.event.caller? ≠ some caller ∨ m.notes.filterMap Note.called? = []) :
    called (ownMoves caller (span ++ [m])) = called (ownMoves caller span) := by
  by_cases own : m.event.caller? = some caller
  · rw [called_ownMoves_concat own, h.resolve_left (absurd own), List.append_nil]
  · simp [ownMoves, own]

omit [DecidableEq κ] in
theorem called_ownMoves_singleton {m : Step ι κ α}
    (uncalled : m.notes.filterMap Note.called? = []) : called (ownMoves caller [m]) = [] := by
  rw [← List.nil_append [m], called_ownMoves_same (.inr uncalled)]
  rfl

/-- The moves of a request are a path of their own. -/
theorem Request.path (request : Request caller key span)
    (run : (system describe world).Run moves env s) {earlier : List (Step ι κ α)}
    (hmoves : moves = earlier ++ span) :
    ∃ before env₁, (system describe world).Path env₁ before span env s ∧ Coherent before := by
  obtain ⟨env₀, path⟩ := run
  obtain ⟨first, rest, rfl, -⟩ := request.opens
  obtain ⟨env₁, earlier_path, hs, later⟩ := path.cut hmoves
  exact ⟨first.before, first.env, (System.Path.nil.move hs).trans later,
    path_coherent earlier_path .empty⟩

/-- At most four moves carry a request to its answer. -/
theorem Request.carried_le (request : Request caller key span)
    (path : (system describe world).Path env₀ s₀ span env s) (h : Coherent s₀) :
    span.countP (fun m => m.before.carries caller m.event) + s.toGo caller ≤ 4 := by
  refine request.keeps path h
    (P := fun span s => span.countP (fun m => m.before.carries caller m.event) + s.toGo caller ≤ 4)
    (fun {m} _ _ looks t => ?_) fun {span m} _ _ coherent _ kept hc _ t => ?_
  · have last := m.after.toGo_le caller
    have one : [m].countP (fun m => m.before.carries caller m.event) ≤ 1 := List.countP_le_length
    omega
  · have nearer := t.toGo coherent hc
    rw [countP_concat]
    omega

/-- A request that is over was answered, or its caller went away. -/
theorem Request.over (request : Request caller key span)
    (path : (system describe world).Path env₀ s₀ span env s) (h : Coherent s₀)
    (gone : s.callers.get? caller = none) :
    (∃ m ∈ span, m.event = .drop caller) ∨
      ∃ m ∈ span, ∃ n o, .answered caller key n o ∈ m.notes := by
  refine request.keeps path h
    (P := fun span s => s.callers.get? caller = none →
      (∃ m ∈ span, m.event = .drop caller) ∨
        ∃ m ∈ span, ∃ n o, .answered caller key n o ∈ m.notes)
    (fun {m} _ coherent looks t gone => ?_)
    (fun {span m} _ _ coherent _ _ hc hkey t gone => ?_) gone
  · cases t.opening coherent looks with
    | defers undecided _ _ => rw [undecided] at gone; cases gone
    | joins n awaits _ _ _ => rw [awaits] at gone; cases gone
    | ends n o _ answers _ _ =>
      exact .inr ⟨m, List.mem_singleton.2 rfl, n, o, answers.told⟩
  · have last : m ∈ span ++ [m] := List.mem_append_right _ (List.mem_singleton.2 rfl)
    cases t.course hc with
    | stays _ same _ => rw [same] at gone; cases gone
    | boards n _ _ awaits _ _ => rw [awaits] at gone; cases gone
    | ends n o _ _ answers _ _ => exact .inr ⟨m, last, n, o, hkey ▸ answers.told⟩
    | leaves dropped _ _ => exact .inl ⟨m, last, dropped⟩

/-- A request starts at most one round of its own, on its second look. -/
theorem Request.called_own (request : Request caller key span)
    (path : (system describe world).Path env₀ s₀ span env s) (h : Coherent s₀) :
    (called (ownMoves caller span)).length ≤ 1 := by
  refine (request.keeps path h
    (P := fun span s => (called (ownMoves caller span)).length ≤ 1 ∧
      ∀ key, s.callers.get? caller = some (.undecided key) → called (ownMoves caller span) = [])
    (fun {m} _ coherent looks t => ?_) fun {span m} _ _ coherent _ kept hc _ t => ?_).1
  · have uncalled : m.notes.filterMap Note.called? = [] := by
      cases t.opening coherent looks with
      | defers _ notes _ | joins n _ notes _ _ => rw [notes]; rfl
      | ends n o _ answers _ _ => exact answers.called
    simp [called_ownMoves_singleton uncalled]
  · obtain ⟨few, none_yet⟩ := kept
    cases t.course hc with
    | stays other same _ =>
      rw [called_ownMoves_same (.inl other)]
      exact ⟨few, fun key undecided => none_yet key ((hc.trans same.symm).trans undecided)⟩
    | boards n decides undecided awaits _ _ =>
      rw [called_ownMoves_concat (by rw [decides]; rfl), none_yet _ (undecided ▸ hc)]
      refine ⟨?_, fun key undecided' => by rw [awaits] at undecided'; cases undecided'⟩
      rcases t.called with ⟨notes, -⟩ | ⟨notes, -⟩ <;> simp [notes]
    | ends n o own gone answers _ _ =>
      rw [called_ownMoves_same (.inr answers.called)]
      exact ⟨few, fun key undecided => by rw [gone] at undecided; cases undecided⟩
    | leaves dropped gone notes =>
      rw [called_ownMoves_same (.inr (by rw [notes]; rfl))]
      exact ⟨few, fun key undecided => by rw [gone] at undecided; cases undecided⟩

/-- A request whose first look finds a round running joins it, calls no fetch of its own, and is
told what the round comes to. -/
theorem Request.resumes (request : Request caller key span)
    (path : (system describe world).Path env₀ s₀ span env s) (h : Coherent s₀) {n : Nat}
    (running : ∀ first rest, span = first :: rest → first.before.Running key n) :
    (∀ first rest, span = first :: rest → first.notes = [.joined key n .firstLook]) ∧
      called (ownMoves caller span) = [] ∧
      ∀ m ∈ span, ∀ n' o, .answered caller key n' o ∈ m.notes → n' = n := by
  refine (request.keeps path h
    (P := fun span s => (∀ first rest, span = first :: rest → first.before.Running key n) →
      ((∀ first rest, span = first :: rest → first.notes = [.joined key n .firstLook]) ∧
        called (ownMoves caller span) = [] ∧
        ∀ m ∈ span, ∀ n' o, .answered caller key n' o ∈ m.notes → n' = n) ∧
      ∀ stage, s.callers.get? caller = some stage → stage = .awaiting key n)
    (fun {m} _ coherent looks t running => ?_)
    (fun {span m} _ _ coherent request kept hc hkey t running => ?_) running).1
  · have here := running m [] rfl
    cases t.opening coherent looks with
    | defers _ _ free => exact absurd here (free n)
    | ends _ _ _ _ free _ => exact absurd here (free n)
    | joins n' awaits notes joined _ =>
      obtain rfl := coherent.running_unique here joined
      refine ⟨⟨fun first rest hspan => ?_, ?_, ?_⟩, fun stage hc => ?_⟩
      · obtain ⟨rfl, -⟩ := List.cons.inj hspan
        exact notes
      · exact called_ownMoves_singleton (by rw [notes]; rfl)
      · intro m' hm' n' o ha
        obtain rfl := List.mem_singleton.1 hm'
        rw [notes] at ha
        simp at ha
      · exact (Option.some.inj (awaits.symm.trans hc)).symm
  · obtain ⟨first, rest, hspan, -⟩ := request.opens
    have running' : ∀ f r, span = f :: r → f.before.Running key n := fun f r hfr =>
      running f (r ++ [m]) (by rw [hfr]; rfl)
    obtain ⟨⟨joined, none_called, told⟩, waits⟩ := kept running'
    obtain rfl := waits _ hc
    refine ⟨⟨fun f r hfr => ?_, ?_, ?_⟩, fun stage' hc' => ?_⟩
    · rw [hspan] at hfr
      obtain ⟨rfl, -⟩ := List.cons.inj hfr
      exact joined _ _ hspan
    · refine (called_ownMoves_same ?_).trans none_called
      cases t.course hc with
      | stays other _ _ => exact .inl other
      | boards _ _ undecided _ _ _ => cases undecided
      | ends _ _ _ _ answers _ _ => exact .inr answers.called
      | leaves _ _ notes => exact .inr (by rw [notes]; rfl)
    · intro m' hm' n' o ha
      rcases List.mem_append.1 hm' with hm' | hm'
      · exact told m' hm' n' o ha
      · obtain rfl := List.mem_singleton.1 hm'
        cases t.course hc with
        | stays _ _ silent => exact absurd ha (silent _ _ _)
        | boards _ _ undecided _ _ _ => cases undecided
        | ends n'' o' _ _ answers same _ =>
          obtain ⟨-, -, rfl, -⟩ := answers.unique ha
          exact (same n rfl).symm
        | leaves _ _ notes => rw [notes] at ha; cases ha
    · cases t.course hc with
      | stays _ same _ => exact (Option.some.inj (same.symm.trans hc')).symm
      | boards _ _ undecided _ _ _ => cases undecided
      | ends _ _ _ gone _ _ _ => rw [gone] at hc'; cases hc'
      | leaves _ gone _ => rw [gone] at hc'; cases hc'

/-- Where the others leave the entry of the key alone, a request leaves behind what it is told. -/
theorem Request.entry (request : Request caller key span)
    (path : (system describe world).Path env₀ s₀ span env s) (h : Coherent s₀)
    (alone : ∀ m ∈ span, m.event.caller? ≠ some caller →
      m.after.entries.get? key = m.before.entries.get? key)
    {m : Step ι κ α} {n : Nat} {o : Outcome (Resource α)} (hm : m ∈ span)
    (ha : .answered caller key n o ∈ m.notes) : s.entries.get? key = Slot.left n o := by
  refine (request.keeps path h
    (P := fun span s => (∀ m ∈ span, m.event.caller? ≠ some caller →
        m.after.entries.get? key = m.before.entries.get? key) →
      (∀ m ∈ span, ∀ n o, .answered caller key n o ∈ m.notes →
        s.callers.get? caller = none ∧ s.entries.get? key = Slot.left n o) ∧
      ∀ n, s.callers.get? caller = some (.awaiting key n) →
        s.entries.get? key = some (.inFlight n))
    (fun {m} _ coherent looks t _ => ?_)
    (fun {span m} _ _ coherent _ kept hc hkey t alone => ?_) alone).1 m hm n o ha |>.2
  · refine ⟨fun m' hm' n o ha => ?_, fun n hc => ?_⟩
    · obtain rfl := List.mem_singleton.1 hm'
      cases t.opening coherent looks with
      | defers _ notes _ => rw [notes] at ha; cases ha
      | joins _ _ notes _ _ => rw [notes] at ha; simp at ha
      | ends n' o' gone answers _ entry =>
        obtain ⟨-, -, rfl, rfl⟩ := answers.unique ha
        exact ⟨gone, entry⟩
    · cases t.opening coherent looks with
      | defers undecided _ _ => rw [undecided] at hc; cases hc
      | joins n' awaits _ _ entry =>
        obtain rfl : n' = n := by simpa using awaits.symm.trans hc
        exact entry
      | ends _ _ gone _ _ _ => rw [gone] at hc; cases hc
  · obtain ⟨told, waits⟩ := kept fun m' hm' => alone m' (List.mem_append_left _ hm')
    subst hkey
    refine ⟨fun m' hm' n o ha => ?_, fun n hc' => ?_⟩
    · rcases List.mem_append.1 hm' with hm' | hm'
      · rw [(told m' hm' n o ha).1] at hc
        cases hc
      · obtain rfl := List.mem_singleton.1 hm'
        cases t.course hc with
        | stays _ _ silent => exact absurd ha (silent _ _ _)
        | boards _ _ _ _ _ silent => exact absurd ha (silent _ _ _)
        | ends n' o' _ gone answers _ entry =>
          obtain ⟨-, -, rfl, rfl⟩ := answers.unique ha
          exact ⟨gone, entry fun k awaits => waits k (awaits ▸ hc)⟩
        | leaves _ _ notes => rw [notes] at ha; cases ha
    · cases t.course hc with
      | stays other same _ =>
        rw [alone m (List.mem_append_right _ (List.mem_singleton.2 rfl)) other]
        exact waits n (hc.trans (same.symm.trans hc'))
      | boards n' _ _ awaits entry _ =>
        obtain rfl : n' = n := by simpa using awaits.symm.trans hc'
        exact entry
      | ends _ _ _ gone _ _ _ => rw [gone] at hc'; cases hc'
      | leaves _ gone _ => rw [gone] at hc'; cases hc'

omit [DecidableEq κ] in
theorem State.working_of_next {ending : Ending (Resource α)} {e : Event ι κ α}
    (h : s.next? caller ending = some e) : ∃ stage, s.callers.get? caller = some stage := by
  cases hc : s.callers.get? caller with
  | none => simp [State.next?, hc] at h
  | some stage => exact ⟨stage, rfl⟩

variable (describe world) in
/-- Whoever is at work can be driven to its answer. -/
theorem Coherent.can_end (h : Coherent s) {stage : Stage κ}
    (hc : s.callers.get? caller = some stage) (env : Surroundings)
    (ending : Ending (Resource α)) :
    ∃ more env' s', (system describe world).Path env s more env' s' ∧
      (∀ m ∈ more, m.before.next? caller ending = some m.event) ∧
      ∃ m ∈ more, ∃ n o, .answered caller stage.key n o ∈ m.notes := by
  -- Each event that carries the request on leaves fewer to go.
  induction hgo : s.toGo caller using Nat.strongRecOn generalizing s env stage with
  | ind k ih =>
    obtain ⟨e, hnext, enabled⟩ := h.next_enabled hc describe env ending
    obtain ⟨⟨env', s', notes⟩, hs⟩ := Option.isSome_iff_exists.1 enabled
    have t := step_transition hs
    have carried := State.carries_next hnext
    have fewer : s'.toGo caller < k := by
      have nearer := t.toGo h hc
      rw [carried, hgo] at nearer
      exact nearer
    have one : (system describe world).Path env s _ env' s' := .move .nil hs
    have onward : ∀ {stage'}, s'.callers.get? caller = some stage' → stage'.key = stage.key →
        ∃ more env' s', (system describe world).Path env s more env' s' ∧
          (∀ m ∈ more, m.before.next? caller ending = some m.event) ∧
          ∃ m ∈ more, ∃ n o, .answered caller stage.key n o ∈ m.notes := by
      intro stage' hc' hkey
      obtain ⟨more, last_env, last, path, driven, m, hm, n, o, ha⟩ :=
        ih _ fewer (t.coherent h) hc' env' rfl
      refine ⟨_, last_env, last, one.trans path, fun m hm => ?_, m, List.mem_append_right _ hm,
        n, o, hkey ▸ ha⟩
      rcases List.mem_append.1 hm with hm | hm
      · obtain rfl := List.mem_singleton.1 hm
        exact hnext
      · exact driven m hm
    cases t.course hc with
    | stays _ same _ => exact onward same rfl
    | boards n _ _ awaits _ _ => exact onward awaits rfl
    | ends n o _ _ answers _ _ =>
      refine ⟨_, env', s', one, fun m hm => ?_, _, List.mem_singleton.2 rfl, n, o, answers.told⟩
      obtain rfl := List.mem_singleton.1 hm
      exact hnext
    | leaves dropped _ _ =>
      rw [dropped] at carried
      cases carried

/-- A new request can be driven to its answer. -/
theorem Coherent.can_request (h : Coherent s) (free : s.callers.get? caller = none) (key : κ)
    (env : Surroundings) (ending : Ending (Resource α)) :
    ∃ span env' s', (system describe world).Path env s span env' s' ∧ Request caller key span ∧
      (∀ m ∈ span, m.event = .look caller key ∨ m.before.next? caller ending = some m.event) ∧
      ∃ m ∈ span, ∃ n o, .answered caller key n o ∈ m.notes := by
  obtain ⟨⟨env', s', notes⟩, hs⟩ : ∃ r, step describe env s (.look caller key) = some r := by
    simp [step, free]
  have t := step_transition hs
  have taken : (system describe world).step env s (.look caller key) = some (env', s', notes) := hs
  have one : (system describe world).Path env s _ env' s' := .move .nil taken
  have onward : ∀ {stage}, s'.callers.get? caller = some stage → stage.key = key →
      ∃ span env' s', (system describe world).Path env s span env' s' ∧ Request caller key span ∧
        (∀ m ∈ span, m.event = .look caller key ∨ m.before.next? caller ending = some m.event) ∧
        ∃ m ∈ span, ∃ n o, .answered caller key n o ∈ m.notes := by
    intro stage hc hkey
    obtain ⟨more, last_env, last, path, driven, m, hm, n, o, ha⟩ :=
      (t.coherent h).can_end describe world hc env' ending
    refine ⟨_, last_env, last, one.trans path, ⟨⟨_, more, rfl, .first free⟩, fun m hm => ?_⟩,
      fun m hm => ?_, m, List.mem_append_right _ hm, n, o, hkey ▸ ha⟩
    · exact State.working_of_next (driven m hm)
    · rcases List.mem_append.1 hm with hm | hm
      · obtain rfl := List.mem_singleton.1 hm
        exact .inl rfl
      · exact .inr (driven m hm)
  cases t.opening h (.first free) with
  | defers undecided _ _ => exact onward undecided rfl
  | joins n awaits _ _ _ => exact onward awaits rfl
  | ends n o _ answers _ _ =>
    refine ⟨_, env', s', one, .first (.first free), fun m hm => ?_, _, List.mem_singleton.2 rfl,
      n, o, answers.told⟩
    obtain rfl := List.mem_singleton.1 hm
    exact .inl rfl

/-- Nobody starts to wait for a round that has ended. -/
theorem path_awaiting (path : (system describe world).Path env₀ s₀ moves env s) (h : Coherent s₀)
    {n : Nat} {o : Outcome (Resource α)} (ended : s₀.outcome? n = some o)
    (hc : s.callers.get? caller = some (.awaiting key n)) :
    s₀.callers.get? caller = some (.awaiting key n) := by
  have kept := path.keeps
    (P := fun _ s => Coherent s ∧ s.outcome? n = some o ∧
      (s.callers.get? caller = some (.awaiting key n) →
        s₀.callers.get? caller = some (.awaiting key n)))
    (fun kept _ => kept)
    (fun ⟨h, ho, waits⟩ hs => by
      have t := step_transition hs
      have ho' := t.outcome?_stays h ho
      exact ⟨t.coherent h, ho', fun hc => waits (t.awaited_before h hc ho')⟩)
    ⟨h, ended, id⟩
  exact kept.2.2 hc

/-- Callers that go away, whenever they do, neither block a key nor make a fetch happen twice.

A new request can be driven to its answer from wherever a run leads.  In any run something carries
a request on until it is answered, if its own caller does not go away, and at most four moves do.
It calls the fetch of one round at most.  If its first look finds a round running, abandoned or not,
it joins that round, calls no fetch, and is told what the round comes to.  And if the others leave
the entry of the key alone, the entry is afterwards what the request was told, or gone with an
error.

A round that ended and was not settled is promoted on a second look if its resource is valid, and
gives way to a new one if not, or if it failed; a failure reaches nobody who did not wait for its
round when it ended. -/
theorem cancellation_harmless (run : (system describe world).Run moves env s) :
    (∀ caller key ending, s.callers.get? caller = none →
      ∃ span env' s', (system describe world).Path env s span env' s' ∧ Request caller key span ∧
        (∀ m ∈ span, m.event = .look caller key ∨ m.before.next? caller ending = some m.event) ∧
        ∃ m ∈ span, ∃ n o, .answered caller key n o ∈ m.notes) ∧
    (∀ earlier span caller key, moves = earlier ++ span → Request caller key span →
      ((∀ m ∈ span, m.event ≠ .drop caller) →
        (∃ m ∈ span, ∃ n o, .answered caller key n o ∈ m.notes) ∨
        ∀ ending, ∃ e, s.next? caller ending = some e ∧ s.carries caller e = true ∧
          (step describe env s e).isSome = true) ∧
      span.countP (fun m => m.before.carries caller m.event) ≤ 4 ∧
      (called (ownMoves caller span)).length ≤ 1 ∧
      (∀ n, (∀ first rest, span = first :: rest → first.before.Running key n) →
        (∀ first rest, span = first :: rest → first.notes = [.joined key n .firstLook]) ∧
        called (ownMoves caller span) = [] ∧
        ∀ m ∈ span, ∀ n' o, .answered caller key n' o ∈ m.notes → n' = n) ∧
      ((∀ m ∈ span, m.event.caller? ≠ some caller →
          m.after.entries.get? key = m.before.entries.get? key) →
        ∀ m ∈ span, ∀ n o, .answered caller key n o ∈ m.notes →
          s.entries.get? key = match o with
            | .ok resource => some (.ready n resource)
            | .error _ => none)) ∧
    (∀ m ∈ moves, ∀ caller key n o, m.before.entries.get? key = some (.inFlight n) →
      m.before.outcome? n = some o → ∀ path, Looks m.before caller key m.event path →
      (path = .firstLook → m.notes = [] ∧ m.after.callers.get? caller = some (.undecided key) ∧
        m.after.entries = m.before.entries) ∧
      (path = .secondLook →
        (∀ resource, o = .ok resource → (resource.validity.check m.env).1 = true →
          m.notes = [.hit key .promotion, .answered caller key n o] ∧
            m.after.entries.get? key = some (.ready n resource)) ∧
        ((∀ resource, o = .ok resource → (resource.validity.check m.env).1 = false) →
          m.notes = [.missed key m.before.started]))) ∧
    ∀ n e, s.outcome? n = some (.error e) → ∀ later env' s',
      (system describe world).Path env s later env' s' → ∀ m ∈ later, ∀ caller key o,
        .answered caller key n o ∈ m.notes → s.callers.get? caller = some (.awaiting key n) := by
  have coherent := run_coherent run
  refine ⟨fun caller key ending free => coherent.can_request free key env ending, ?_, ?_, ?_⟩
  · intro earlier span caller key hmoves request
    obtain ⟨before, env₁, path, h⟩ := request.path run hmoves
    refine ⟨fun undropped => ?_, ?_, request.called_own path h, fun n running => ?_, ?_⟩
    · cases hc : s.callers.get? caller with
      | none =>
        rcases request.over path h hc with ⟨m, hm, dropped⟩ | answered
        · exact absurd dropped (undropped m hm)
        · exact .inl answered
      | some stage =>
        refine .inr fun ending => ?_
        obtain ⟨e, hnext, enabled⟩ := coherent.next_enabled hc describe env ending
        exact ⟨e, hnext, State.carries_next hnext, enabled⟩
    · have carried := request.carried_le path h
      omega
    · exact request.resumes path h running
    · intro alone m hm n o ha
      rw [request.entry path h alone hm ha]
      cases o <;> rfl
  · intro m hm caller key n o entry ended path looks
    obtain ⟨_, _, _, -, first, hs, -⟩ := run.cut_of_mem hm
    exact (step_transition hs).unsettled entry ended looks
  · intro n e failed later env' s' path m hm caller key o ha
    obtain ⟨_, _, rfl⟩ := List.append_of_mem hm
    obtain ⟨_, to_move, hs, -⟩ := path.cut rfl
    have first := path_coherent to_move coherent
    rcases (step_transition hs).answered_from first ha with awaits | ⟨_, _, _, _, well, _⟩
    · exact path_awaiting to_move coherent failed awaits
    · rw [path_outcome to_move coherent failed] at well
      cases well

end Run

/-- The caller that started a round goes away, and the next one gets what the round comes to. -/
theorem cancellation_harmless_resumed :
    ∃ earlier span env, ∃ s : State Nat Nat Nat, ∃ resource,
      (system (fun _ => "") fun _ _ _ => True).Run (earlier ++ span) env s ∧
      (∃ m ∈ earlier, m.event = .drop 0) ∧ called (ownMoves 1 span) = [] ∧
      (∃ m ∈ span, .answered 1 7 0 (.ok resource) ∈ m.notes) ∧
      s.entries.get? 7 = some (.ready 0 resource) := by
  let resource : Resource Nat :=
    { value := 5, object := 0, validity := .permanent, sensitive := false }
  have three : (system (fun _ => "") fun _ _ _ => True : System (State Nat Nat Nat) _ _).Path
      .start .empty _ _ _ := .of_replay [.look 0 7, .decide 0, .drop 0] rfl
  have six := three.trans
    (.of_replay [.look 1 7, .finish 0 (.returned (.ok resource)), .settle 1] rfl)
  have harmless := (cancellation_harmless ⟨_, six⟩).2.1 _ _ 1 7 rfl
  obtain ⟨-, -, -, resumes, entry⟩ := harmless ⟨⟨_, _, rfl, .first rfl⟩, fun m hm => by
    simp only [List.tail_cons, List.mem_cons, List.not_mem_nil, or_false] at hm
    rcases hm with rfl | rfl <;> exact ⟨_, rfl⟩⟩
  have running := resumes 0 fun first rest hspan => by
    obtain ⟨rfl, -⟩ := List.cons.inj hspan
    exact ⟨_, rfl, rfl, rfl⟩
  refine ⟨_, _, _, _, resource, ⟨_, six⟩, ⟨_, .tail _ (.tail _ (.head _)), rfl⟩, running.2.1,
    ⟨_, .tail _ (.tail _ (.head _)), .head _⟩,
    entry (fun m hm other => ?_) _ (.tail _ (.tail _ (.head _))) 0 (.ok resource) (.head _)⟩
  simp only [List.mem_cons, List.not_mem_nil, or_false] at hm
  rcases hm with rfl | rfl | rfl
  · exact absurd rfl other
  · rfl
  · exact absurd rfl other

end Cache
end SingleFlight
