import SingleFlight.Proofs.Cache.Rounds

/-!
Why a request may be answered as it is.

A `Request` is the stretch of a run from the first look of a caller on, for as long as the caller is
at work.  While it waits for a round, one of its own looks found that round running or started it
(`underway`).  So an answer is either a resource that one of the looks found valid, or the outcome
of a round that had not ended at that look: `answers_justified`.

Answers that stem from one round agree, because what is known of a round is never revised.
-/

namespace SingleFlight
namespace Cache

/-- The key that a request is for. -/
def Stage.key {κ : Type} : Stage κ → κ
  | undecided key => key
  | awaiting key _ => key

variable {ι κ α : Type} [DecidableEq ι]

abbrev Step (ι κ α : Type) := Move (State ι κ α) (Event ι κ α) (Note ι κ α)

/-- The moves of a run from the first look of a request on, while its caller is at work. -/
structure Request (caller : ι) (key : κ) (span : List (Step ι κ α)) : Prop where
  opens : ∃ first rest, span = first :: rest ∧
    Looks first.before caller key first.event .firstLook
  stays : ∀ m ∈ span.tail, ∃ stage, m.before.callers.get? caller = some stage

/-- In this move the caller looks for the key and finds the round running, or starts it. -/
def Boards (m : Step ι κ α) (caller : ι) (key : κ) (n : Nat) : Prop :=
  (∃ path, Looks m.before caller key m.event path) ∧
    (m.before.Running key n ∨ .missed key n ∈ m.notes)

/-- Why the last move of a request may answer it with this outcome of this round. -/
inductive Justified (span : List (Step ι κ α)) (last : Step ι κ α) (caller : ι) (key : κ) (n : Nat)
    (outcome : Outcome (Resource α)) : Prop where
  /-- The move is a look, and finds the resource valid. -/
  | hit {path resource} : outcome = .ok resource → Looks last.before caller key last.event path →
      (resource.validity.check last.env).1 = true → Justified span last caller key n outcome
  /-- The request waited for the round since one of its looks, and the round has ended so. -/
  | shared {look} : look ∈ span → Boards look caller key n → last.event = .settle caller →
      last.before.outcome? n = some outcome → Justified span last caller key n outcome

theorem Request.extend {caller : ι} {key : κ} {span : List (Step ι κ α)} {m : Step ι κ α}
    (h : Request caller key span) {stage : Stage κ}
    (hc : m.before.callers.get? caller = some stage) : Request caller key (span ++ [m]) := by
  obtain ⟨first, rest, rfl, looks⟩ := h.opens
  refine ⟨⟨first, rest ++ [m], rfl, looks⟩, fun m' hm' => ?_⟩
  rcases List.mem_append.1 hm' with hm' | hm'
  · exact h.stays m' hm'
  · obtain rfl := List.mem_singleton.1 hm'
    exact ⟨stage, hc⟩

theorem Request.first {caller : ι} {key : κ} {m : Step ι κ α}
    (looks : Looks m.before caller key m.event .firstLook) : Request caller key [m] :=
  ⟨⟨m, [], rfl, looks⟩, fun m' hm' => by cases hm'⟩

variable [DecidableEq κ]

/-! ## One step -/

section Step

variable {describe : κ → String} {env env' : Surroundings} {s s' : State ι κ α}
  {e : Event ι κ α} {notes : List (Note ι κ α)} {caller : ι} {key : κ} {n : Nat}

/-- Who is at work after a step was at the same stage before, or has just taken a look. -/
theorem Transition.at_work (t : Transition describe env s e env' s' notes) {stage : Stage κ}
    (hc : s'.callers.get? caller = some stage) :
    s.callers.get? caller = some stage ∨
      ∃ path, Looks s caller stage.key e path ∧
        ∀ key n, stage = .awaiting key n → s.isRunning n = true ∧
          s.entries.get? key = some (.inFlight n) ∨ .missed key n ∈ notes := by
  cases t with
  | hit _ _ _ | settle _ _ | promote _ _ _ _ | drop _ =>
    exact .inl (State.get?_of_get?_leave hc).2
  | finish _ _ _ => exact .inl hc
  | @join c key' _ path n' looks entry running =>
    rcases Table.get?_of_get?_insert hc with ⟨rfl, rfl⟩ | ⟨-, before⟩
    · refine .inr ⟨path, looks, fun key n h => .inl ?_⟩
      obtain ⟨rfl, rfl⟩ : key' = key ∧ n' = n := by simpa using h
      exact ⟨running, entry⟩
    · exact .inl before
  | @defer c key' _ new _ _ =>
    rcases Table.get?_of_get?_insert hc with ⟨rfl, rfl⟩ | ⟨-, before⟩
    · exact .inr ⟨_, .first new, fun key n h => by cases h⟩
    · exact .inl before
  | @miss c key' _ undecided _ _ _ =>
    rcases Table.get?_of_get?_insert hc with ⟨rfl, rfl⟩ | ⟨-, before⟩
    · refine .inr ⟨_, .second undecided, fun key n h => .inr ?_⟩
      obtain ⟨rfl, rfl⟩ : key' = key ∧ s.started = n := by simpa using h
      exact List.mem_singleton.2 rfl
    · exact .inl before

/-- Nobody starts to wait for a round that has ended. -/
theorem Transition.awaited_before (t : Transition describe env s e env' s' notes) (h : Coherent s)
    {o : Outcome (Resource α)} (hc : s'.callers.get? caller = some (.awaiting key n))
    (ho : s'.outcome? n = some o) : s.callers.get? caller = some (.awaiting key n) := by
  rcases t.at_work hc with same | ⟨path, looks, boards⟩
  · exact same
  · have unfinished : s.outcome? n = none := by
      rcases boards key n rfl with ⟨running, -⟩ | missed
      · exact State.outcome?_of_isRunning running
      · obtain rfl := t.missed_started missed
        simp [State.outcome?, h.rounds_started]
    rcases t.outcome?_cases ho with before | ⟨_, _, rfl, -⟩
    · rw [unfinished] at before
      cases before
    · cases looks

/-- An answer comes from a look that finds a valid resource, or from settling a round. -/
theorem Transition.answered (t : Transition describe env s e env' s' notes)
    {o : Outcome (Resource α)} (ha : .answered caller key n o ∈ notes) :
    (∃ path resource, o = .ok resource ∧ Looks s caller key e path ∧
      (resource.validity.check env).1 = true) ∨
    (e = .settle caller ∧ s.callers.get? caller = some (.awaiting key n) ∧
      s.outcome? n = some o) := by
  cases t with
  | @hit c key' _ path n' resource looks _ valid =>
    obtain ⟨rfl, rfl, rfl, rfl⟩ : caller = c ∧ key = key' ∧ n = n' ∧ o = .ok resource := by
      simpa using ha
    exact .inl ⟨path, resource, rfl, looks, valid⟩
  | @promote c key' n' resource undecided _ _ valid =>
    obtain ⟨rfl, rfl, rfl, rfl⟩ : caller = c ∧ key = key' ∧ n = n' ∧ o = .ok resource := by
      simpa using ha
    exact .inl ⟨_, resource, rfl, .second undecided, valid⟩
  | @settle c key' n' o' awaits ended =>
    obtain ⟨rfl, rfl, rfl, rfl⟩ : caller = c ∧ key = key' ∧ n = n' ∧ o = o' := by
      simpa using ha
    exact .inr ⟨rfl, awaits, ended⟩
  | join _ _ _ | defer _ _ _ | miss _ _ _ _ | finish _ _ _ | drop _ => simp at ha

/-- A look starts a round, joins one that runs, is answered, or has to be followed by another. -/
theorem Transition.looked (t : Transition describe env s e env' s' notes) (h : Coherent s)
    {path : Path} (looks : Looks s caller key e path) :
    (∃ n, .missed key n ∈ notes) ∨
      (∃ n, s.Running key n ∧ s'.callers.get? caller = some (.awaiting key n)) ∨
      (∃ n resource, .answered caller key n (.ok resource) ∈ notes) ∨
      path = .firstLook ∧ s'.callers.get? caller = some (.undecided key) := by
  have same : ∀ {c k p}, Looks s c k e p → c = caller ∧ k = key := by
    intro c k p looks'
    cases looks with
    | first _ =>
      cases looks'
      exact ⟨rfl, rfl⟩
    | second undecided =>
      cases looks' with
      | second undecided' =>
        have stage := undecided.symm.trans undecided'
        exact ⟨rfl, by simpa using stage.symm⟩
  cases t with
  | hit looks' _ _ =>
    obtain ⟨rfl, rfl⟩ := same looks'
    exact .inr (.inr (.inl ⟨_, _, .tail _ (.head _)⟩))
  | join looks' entry running =>
    obtain ⟨rfl, rfl⟩ := same looks'
    have known := h.inFlight _ _ entry
    exact .inr (.inl ⟨_, known.running running, Table.get?_insert_self _ _ _⟩)
  | defer new _ _ =>
    cases looks
    exact .inr (.inr (.inr ⟨rfl, Table.get?_insert_self _ _ _⟩))
  | promote undecided _ _ _ =>
    obtain ⟨rfl, rfl⟩ := same (.second undecided)
    exact .inr (.inr (.inl ⟨_, _, .tail _ (.head _)⟩))
  | miss undecided _ _ _ =>
    obtain ⟨rfl, rfl⟩ := same (.second undecided)
    exact .inl ⟨_, .head _⟩
  | finish _ _ _ | settle _ _ | drop _ => cases looks

/-- Who is answered is no longer at work. -/
theorem Transition.other_of_answered (t : Transition describe env s e env' s' notes)
    {o : Outcome (Resource α)} (ha : .answered caller key n o ∈ notes) {c : ι} {stage : Stage κ}
    (hc : s'.callers.get? c = some stage) : c ≠ caller := by
  have left : ∀ c', caller = c' → (s.leave c').callers.get? c = some stage → c ≠ caller := by
    rintro c' rfl hc
    exact (State.get?_of_get?_leave hc).1.symm
  cases t with
  | hit _ _ _ | promote _ _ _ _ | settle _ _ => exact left _ (by simp_all) hc
  | join _ _ _ | defer _ _ _ | miss _ _ _ _ | finish _ _ _ | drop _ => simp at ha

theorem Transition.somebody (t : Transition describe env s e env' s' notes) :
    (∃ c key, e = .look c key) ∨ ∃ c stage, s.callers.get? c = some stage := by
  cases t with
  | hit looks _ _ | join looks _ _ =>
    cases looks with
    | first _ => exact .inl ⟨_, _, rfl⟩
    | second undecided => exact .inr ⟨_, _, undecided⟩
  | defer _ _ _ => exact .inl ⟨_, _, rfl⟩
  | promote undecided _ _ _ => exact .inr ⟨_, _, undecided⟩
  | miss undecided _ _ _ => exact .inr ⟨_, _, undecided⟩
  | finish _ _ awaited =>
    obtain ⟨c, key, awaits⟩ := State.isAwaited_iff.1 awaited
    exact .inr ⟨c, _, awaits⟩
  | settle awaits _ => exact .inr ⟨_, _, awaits⟩
  | drop there => exact .inr ⟨_, _, there⟩

/-- What is answered is the outcome of a round of the key. -/
theorem Transition.answered_outcome (t : Transition describe env s e env' s' notes)
    (h : Coherent s) {o : Outcome (Resource α)} (ha : .answered caller key n o ∈ notes) :
    ∃ r, s.rounds n = some r ∧ r.key = key ∧ r.outcome = some o := by
  cases t with
  | @hit c key' _ _ n' resource _ entry _ =>
    obtain ⟨-, rfl, rfl, rfl⟩ : caller = c ∧ key = key' ∧ n = n' ∧ o = .ok resource := by
      simpa using ha
    exact h.ready key n resource entry
  | @promote c key' n' resource _ entry ended _ =>
    obtain ⟨-, rfl, rfl, rfl⟩ : caller = c ∧ key = key' ∧ n = n' ∧ o = .ok resource := by
      simpa using ha
    exact (h.inFlight key n entry).ended ended
  | @settle c key' n' o' awaits ended =>
    obtain ⟨rfl, rfl, rfl, rfl⟩ : caller = c ∧ key = key' ∧ n = n' ∧ o = o' := by
      simpa using ha
    exact (h.awaited caller key n awaits).ended ended
  | join _ _ _ | defer _ _ _ | miss _ _ _ _ | finish _ _ _ | drop _ => simp at ha

theorem Transition.answered_ended (t : Transition describe env s e env' s' notes) (h : Coherent s)
    {o : Outcome (Resource α)} (ha : .answered caller key n o ∈ notes) : s.outcome? n = some o := by
  obtain ⟨r, hr, -, ho⟩ := t.answered_outcome h ha
  exact State.outcome?_eq_some_iff.2 ⟨r, hr, ho⟩

end Step

/-! ## Requests under way -/

section Run

variable {describe : κ → String} {world : Surroundings → State ι κ α → Surroundings → Prop}
  {moves : List (Step ι κ α)} {env env₀ : Surroundings} {s s₀ : State ι κ α}

/-- Every caller at work has a request under way, and boarded the round that it waits for. -/
theorem underway (path : (system describe world).Path env₀ State.empty moves env s) :
    ∀ caller stage, s.callers.get? caller = some stage →
      ∃ earlier span, moves = earlier ++ span ∧ Request caller stage.key span ∧
        ∀ key n, stage = .awaiting key n → ∃ look ∈ span, Boards look caller key n := by
  induction path with
  | nil =>
    intro caller stage hc
    cases hc
  | wait _ _ ih => exact ih
  | @move moves env env' s s' e notes path hs ih =>
    intro caller stage hc
    have t := step_transition hs
    have coherent := path_coherent path .empty
    rcases t.at_work hc with hbefore | ⟨way, looks, boards⟩
    · obtain ⟨earlier, span, rfl, request, boarded⟩ := ih caller stage hbefore
      refine ⟨earlier, _, List.append_assoc _ _ _, request.extend hbefore, fun key n h => ?_⟩
      obtain ⟨look, hl, hb⟩ := boarded key n h
      exact ⟨look, List.mem_append_left _ hl, hb⟩
    -- The look is the last move, whether it opens the request or goes on with it.
    · have hb : ∀ key n, stage = .awaiting key n →
          Boards ⟨env, s, e, notes, s'⟩ caller key n := by
        intro key n h
        have hkey : stage.key = key := by rw [h, Stage.key]
        refine ⟨⟨way, hkey ▸ looks⟩, (boards key n h).imp_left fun ⟨running, entry⟩ => ?_⟩
        exact (coherent.inFlight key n entry).running running
      cases looks with
      | first new =>
        exact ⟨moves, [_], rfl, .first (.first new), fun key n h =>
          ⟨_, List.mem_singleton.2 rfl, hb key n h⟩⟩
      | second undecided =>
        obtain ⟨earlier, span, rfl, request, -⟩ := ih caller _ undecided
        exact ⟨earlier, _, List.append_assoc _ _ _, request.extend undecided, fun key n h =>
          ⟨_, List.mem_append_right _ (List.mem_singleton.2 rfl), hb key n h⟩⟩

theorem path_rounds_grow (path : (system describe world).Path env₀ s₀ moves env s)
    (h : Coherent s₀) {n : Nat} {r : Round κ α} (hr : s₀.rounds n = some r) :
    ∃ r', s.rounds n = some r' ∧ r.Grows r' := by
  have kept := path.keeps (P := fun _ s => Coherent s ∧ ∃ r', s.rounds n = some r' ∧ r.Grows r')
    (fun h _ => h)
    (fun ⟨h, r', hr', grows⟩ hs => by
      have t := step_transition hs
      obtain ⟨r'', hr'', grows'⟩ := t.rounds_grow h hr'
      exact ⟨t.coherent h, r'', hr'', grows.trans grows'⟩)
    ⟨h, r, hr, .refl r⟩
  exact kept.2

theorem path_outcome (path : (system describe world).Path env₀ s₀ moves env s)
    (h : Coherent s₀) {n : Nat} {o : Outcome (Resource α)} (ho : s₀.outcome? n = some o) :
    s.outcome? n = some o := by
  obtain ⟨r, hr, hro⟩ := State.outcome?_eq_some_iff.1 ho
  obtain ⟨r', hr', grows⟩ := path_rounds_grow path h hr
  exact State.outcome?_eq_some_iff.2 ⟨r', hr', grows.outcome o hro⟩

theorem Boards.not_ended {m : Step ι κ α} {caller : ι} {key : κ} {n : Nat}
    (h : Boards m caller key n) (coherent : Coherent m.before) {env' : Surroundings}
    (hs : step describe m.env m.before m.event = some (env', m.after, m.notes)) :
    m.before.outcome? n = none := by
  rcases h.2 with running | missed
  · exact State.outcome?_of_isRunning running.isRunning
  · obtain rfl := (step_transition hs).missed_started missed
    have fresh := coherent.rounds_started
    simp [State.outcome?, fresh]

/-- A look opens a request or goes on with the one that is under way. -/
theorem look_request {m : Step ι κ α} {caller : ι} {key : κ} {way : Path}
    (path : (system describe world).Path env₀ State.empty moves m.env m.before)
    (looks : Looks m.before caller key m.event way) :
    ∃ before first rest, moves ++ [m] = before ++ first :: rest ∧
      Request caller key (first :: rest) := by
  have opening : ∀ {e}, m.event = e → Looks m.before caller key e way →
      way = .firstLook ∨ m.before.callers.get? caller = some (.undecided key) := by
    rintro e - (_ | undecided)
    · exact .inl rfl
    · exact .inr undecided
  rcases opening rfl looks with rfl | undecided
  · exact ⟨moves, m, [], rfl, .first looks⟩
  · obtain ⟨before, span, rfl, request, -⟩ := underway path caller _ undecided
    have longer := request.extend undecided
    obtain ⟨first, rest, hspan, -⟩ := longer.opens
    rw [Stage.key, hspan] at longer
    refine ⟨before, first, rest, ?_, longer⟩
    rw [← hspan, List.append_assoc]

/-- Whoever waits for a round boarded it in the same request, which began before the round ended. -/
theorem awaiting_request {m : Step ι κ α} {caller : ι} {key : κ} {n : Nat}
    (path : (system describe world).Path env₀ State.empty moves m.env m.before)
    (awaits : m.before.callers.get? caller = some (.awaiting key n)) :
    ∃ before first rest look, moves ++ [m] = before ++ first :: rest ∧
      Request caller key (first :: rest) ∧ look ∈ first :: rest ∧ Boards look caller key n ∧
      first.before.outcome? n = none := by
  obtain ⟨before, span, rfl, request, boarded⟩ := underway path caller _ awaits
  obtain ⟨look, hl, boards⟩ := boarded key n rfl
  obtain ⟨first, rest, rfl, -⟩ := request.opens
  refine ⟨before, first, rest ++ [m], look, by simp, request.extend awaits,
    List.mem_append_left _ hl, boards, ?_⟩
  obtain ⟨_, between⟩ := path.between rfl hl
  obtain ⟨_, to_first, -, -⟩ := path.cut rfl
  obtain ⟨moves₁, moves₂, hsplit⟩ := List.append_of_mem (List.mem_append_right before hl)
  obtain ⟨_, to_look, hlook, -⟩ := path.cut hsplit
  have still_open := boards.not_ended (path_coherent to_look .empty) hlook
  cases ho : first.before.outcome? n with
  | none => rfl
  | some o =>
    rw [path_outcome between (path_coherent to_first .empty) ho] at still_open
    cases still_open

theorem answered_outcome {m : Step ι κ α} {caller : ι} {key : κ} {n : Nat}
    {o : Outcome (Resource α)} (run : (system describe world).Run moves env s) (hm : m ∈ moves)
    (ha : .answered caller key n o ∈ m.notes) :
    ∃ r, s.rounds n = some r ∧ r.key = key ∧ r.outcome = some o := by
  obtain ⟨_, _, _, -, first, hs, rest⟩ := run.cut_of_mem hm
  have t := step_transition hs
  have coherent := run_coherent first
  obtain ⟨r, hr, hkey, ho⟩ := t.answered_outcome coherent ha
  obtain ⟨r₁, hr₁, grows₁⟩ := t.rounds_grow coherent hr
  obtain ⟨r₂, hr₂, grows₂⟩ := path_rounds_grow rest (t.coherent coherent) hr₁
  have grows := grows₁.trans grows₂
  exact ⟨r₂, hr₂, grows.key.trans hkey, grows.outcome _ ho⟩

theorem outcome_of_answered {m : Step ι κ α} {caller : ι} {key : κ} {n : Nat}
    {o : Outcome (Resource α)} (run : (system describe world).Run moves env s) (hm : m ∈ moves)
    (ha : .answered caller key n o ∈ m.notes) : s.outcome? n = some o := by
  obtain ⟨r, hr, -, ho⟩ := answered_outcome run hm ha
  exact State.outcome?_eq_some_iff.2 ⟨r, hr, ho⟩

/-- Every answer of a run is justified by a look of its own request.  A look itself answers only
with a resource that it finds valid; every other answer is the outcome of a round that the request
waited for since it found that round running, or started it, and so no error is told of a round
that had ended when the request began.  Answers that stem from one round are the same. -/
theorem answers_justified (run : (system describe world).Run moves env s) :
    (∀ earlier m later, moves = earlier ++ m :: later → ∀ caller key n outcome,
      .answered caller key n outcome ∈ m.notes →
      ∃ before first rest, earlier ++ [m] = before ++ first :: rest ∧
        Request caller key (first :: rest) ∧
        Justified (first :: rest) m caller key n outcome ∧
        (∀ path, Looks m.before caller key m.event path →
          ∃ resource, outcome = .ok resource ∧ (resource.validity.check m.env).1 = true) ∧
        ∀ e, outcome = .error e → first.before.outcome? n = none) ∧
    ∀ m ∈ moves, ∀ m' ∈ moves, ∀ caller caller' key key' n outcome outcome',
      .answered caller key n outcome ∈ m.notes →
      .answered caller' key' n outcome' ∈ m'.notes → key = key' ∧ outcome = outcome' := by
  refine ⟨?_, ?_⟩
  · intro earlier m later hmoves caller key n outcome ha
    obtain ⟨env₀, path⟩ := run
    obtain ⟨env', first, hs, -⟩ := path.cut hmoves
    rcases (step_transition hs).answered ha with
      ⟨way, resource, rfl, looks, valid⟩ | ⟨settles, awaits, ended⟩
    · obtain ⟨before, f, rest, hsplit, request⟩ := look_request first looks
      exact ⟨before, f, rest, hsplit, request, .hit rfl looks valid,
        fun _ _ => ⟨resource, rfl, valid⟩, nofun⟩
    · obtain ⟨before, f, rest, look, hsplit, request, hl, boards, still_open⟩ :=
        awaiting_request first awaits
      refine ⟨before, f, rest, hsplit, request, .shared hl boards settles ended, ?_,
        fun _ _ => still_open⟩
      intro way looks
      rw [settles] at looks
      cases looks
  · intro m hm m' hm' caller caller' key key' n outcome outcome' ha ha'
    obtain ⟨r, hr, hkey, ho⟩ := answered_outcome run hm ha
    obtain ⟨r', hr', hkey', ho'⟩ := answered_outcome run hm' ha'
    obtain rfl : r = r' := by simpa using hr.symm.trans hr'
    refine ⟨hkey.symm.trans hkey', ?_⟩
    simpa using ho.symm.trans ho'

end Run

/-- A failure reaches the caller that started the round after the one that joined it, and both are
told the same. -/
theorem answers_justified_failure :
    ∃ earlier m env, ∃ s : State Nat Nat Nat,
      (system (fun _ => "\x7b\x7d") fun _ _ _ => True).Run (earlier ++ [m]) env s ∧
      .answered 0 7 0 (.error (.fetch "\x7b\x7d" ["down"])) ∈ m.notes ∧
      (∃ m' ∈ earlier, .answered 1 7 0 (.error (.fetch "\x7b\x7d" ["down"])) ∈ m'.notes) ∧
      ∃ before first rest, earlier ++ [m] = before ++ first :: rest ∧
        Request 0 7 (first :: rest) ∧ first.before.outcome? 0 = none := by
  have five : (system (fun _ => "\x7b\x7d") fun _ _ _ => True : System (State Nat Nat Nat) _ _).Path
      .start .empty _ _ _ :=
    .of_replay [.look 0 7, .decide 0, .look 1 7,
      .finish 0 (.returned (.error (.plain "down"))), .settle 1] rfl
  have six := five.trans (.of_replay [.settle 0] rfl)
  obtain ⟨before, first, rest, hsplit, request, -, -, still_open⟩ :=
    (answers_justified ⟨_, six⟩).1 _ _ [] rfl 0 7 0 _ (.head _)
  exact ⟨_, _, _, _, ⟨_, six⟩, .head _, ⟨_, .tail _ (.tail _ (.tail _ (.tail _ (.head _)))), .head _⟩,
    before, first, rest, hsplit, request, still_open _ rfl⟩

end Cache
end SingleFlight
