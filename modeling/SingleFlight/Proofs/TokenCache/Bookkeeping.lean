import Mathlib.Data.List.DropRight
import SingleFlight.Proofs.Measurements
import SingleFlight.Proofs.TokenCache.Installs

/-!
What the token cache remembers of its tokens and its failures.

The held token, the published one, the number of failures, the last error and the gauge are written
by readers and refreshes in different places.  But a step does one of three things to them
(`Books`): it leaves them alone, it installs a token, or it ends a refresh that counts and failed.
So wherever a run leads they agree with each other, and with what happened since the last token was
installed: `bookkeeping_agrees`.
-/

namespace SingleFlight
namespace TokenCache

open State Metrics

/-- The error of the refresh that ends in this move, if it failed and its timer still counts. -/
def failure? (m : Move State Event Note) : Option ResourceError :=
  match m.event with
  | .act (.refresh t) =>
    match m.before.tasks.get? t with
    | some (.returned _ (.error e)) =>
      if m.before.timer.map Timer.id = some t then some e else none
    | _ => none
  | _ => none

/-- The refreshes that counted and failed since the last token was installed. -/
def failed (moves : List (Move State Event Note)) : List ResourceError :=
  (moves.rtakeWhile fun m => (m.notes.filterMap Note.installed?).isEmpty).filterMap failure?

/-- What the gauge is set to. -/
def Note.gauge? : Note → Option Int
  | installed _ => some 0
  | refreshFailed failures _ _ => some failures
  | _ => none

/-- A state in which it is the reader's turn, and all else is as it was. -/
def State.turn (s : State) (n : Nat) : State :=
  { s with callers := s.callers.insert n (.queued .get), holder := some (.caller n) }

/-- What a step does to the held token and to what is told of it, with the tokens that it installs,
the failure that counts, and what the gauge is set to. -/
inductive Books (s s' : State) : List Held → Option ResourceError → List Int → Prop where
  | rests : s'.held = s.held → s'.published = s.published → s'.failures = s.failures →
      s'.lastError = s.lastError → Books s s' [] none []
  | installs {h} : s'.held = some h → s'.published = some h.token → s'.failures = 0 →
      s'.lastError = none → Books s s' [h] none [0]
  | fails {e failures} : s'.held = s.held → s'.published = s.published →
      failures = min (s.failures + 1) failureBound → s'.failures = failures →
      s'.lastError = some e → Books s s' [] (some e) [(failures : Int)]

/-! ## Steps -/

section Step

variable {cfg : Config} {env env' : Surroundings} {s s' : State} {e : Event} {notes : List Note}

theorem failure?_of_ok {t round : Nat} {r : Resource Token} (returns : s.Returns t round (.ok r)) :
    failure? ⟨env, s, .act (.refresh t), notes, s'⟩ = none := by
  simp only [failure?, returns.returned]

theorem failure?_of_error {t round : Nat} {error : ResourceError}
    (returns : s.Returns t round (.error error)) :
    failure? ⟨env, s, .act (.refresh t), notes, s'⟩ =
      if s.timer.map Timer.id = some t then some error else none := by
  simp only [failure?, returns.returned]

/-- The failure of a refresh does not count once its timer is not that of the cache. -/
theorem failure?_of_superseded {t round : Nat} {outcome : Outcome (Resource Token)}
    (returns : s.Returns t round outcome) (superseded : s.timer.map Timer.id ≠ some t) :
    failure? ⟨env, s, .act (.refresh t), notes, s'⟩ = none := by
  cases outcome with
  | ok r => exact failure?_of_ok returns
  | error error => rw [failure?_of_error returns, if_neg superseded]

theorem filterMap_install {β : Type} {f : Note → Option β}
    (h : ∀ timer delay, f (.armed timer delay) = none) (s : State) (now : Nat) (held : Held) :
    (s.install now held).2.filterMap f = (f (.installed held)).toList := by
  rw [install_snd, List.filterMap_cons, filterMap_arm h]
  cases f (.installed held) <;> rfl

theorem Transition.books (t : Transition cfg env s e env' s' notes) :
    Books s s' (notes.filterMap Note.installed?) (failure? ⟨env, s, e, notes, s'⟩)
      (notes.filterMap Note.gauge?) := by
  cases t with
  | serve _ _ | keep _ _ | idle _ _ _ | stop _ | fire _ _ _ | quit _ _ | addHandle _
  | dropHandle _ => exact .rests rfl rfl rfl rfl
  | enter _ _ =>
    rw [lock_eq]
    exact .rests rfl rfl rfl rfl
  | cancel _ =>
    rw [cancel_eq]
    exact .rests rfl rfl rfl rfl
  | fetch _ _ =>
    split <;> exact .rests rfl rfl rfl rfl
  | resume _ _ _ =>
    rw [List.filterMap_append, List.filterMap_append, filterMap_arm fun _ _ => rfl,
      filterMap_arm fun _ _ => rfl]
    simp only [leave, unlock, arm_fst]
    exact .rests rfl rfl rfl rfl
  | keyed _ _ _ =>
    rw [filterMap_keyed fun _ => rfl, filterMap_keyed fun _ => rfl]
    exact .rests rfl rfl rfl rfl
  | failed _ _ _ =>
    rw [List.filterMap_append, List.filterMap_append, filterMap_keyed fun _ => rfl,
      filterMap_keyed fun _ => rfl]
    exact .rests rfl rfl rfl rfl
  | returned _ _ _ =>
    rw [filterMap_keyed fun _ => rfl, filterMap_keyed fun _ => rfl, lock_eq]
    exact .rests rfl rfl rfl rfl
  | @fetched _ _ _ _ _ _ round r _ _ _ =>
    simp only [List.filterMap_append]
    rw [filterMap_keyed fun _ => rfl, filterMap_keyed fun _ => rfl, filterMap_install fun _ _ => rfl,
      filterMap_install fun _ _ => rfl]
    simp only [leave, unlock, install_fst, arm_fst]
    exact .installs rfl rfl rfl rfl
  | discard returns superseded =>
    rw [failure?_of_superseded returns superseded]
    exact .rests rfl rfl rfl rfl
  | @refresh t round r returns counts =>
    rw [failure?_of_ok returns, List.filterMap_cons_none rfl, List.filterMap_cons_none rfl,
      filterMap_install fun _ _ => rfl, filterMap_install fun _ _ => rfl]
    simp only [retire, unlock, install_fst, arm_fst]
    exact .installs rfl rfl rfl rfl
  | giveUp returns counts _ =>
    rw [failure?_of_error returns, if_pos counts]
    exact .fails rfl rfl rfl rfl rfl
  | @retry t round error h delay returns counts _ _ _ =>
    rw [failure?_of_error returns, if_pos counts, List.filterMap_cons_none rfl,
      List.filterMap_cons_some (show Note.gauge? (.refreshFailed _ _ _) = some _ from rfl),
      filterMap_arm fun _ _ => rfl, filterMap_arm fun _ _ => rfl]
    simp only [retire, unlock, arm_fst]
    exact .fails rfl rfl rfl rfl rfl

/-- What the metrics say of the gauge is what the notes set it to. -/
theorem readings_gauge (name : String) (notes : List Note) :
    readings Event.consecutiveFailures? name (notes.flatMap (Note.metrics name)) =
      notes.filterMap Note.gauge? := by
  induction notes with
  | nil => rfl
  | cons note notes ih =>
    rw [List.flatMap_cons, readings_append, ih, List.filterMap_cons]
    cases note with
    | installed h => simp [Note.metrics, Note.gauge?, readings, Event.consecutiveFailures?]
    | refreshFailed failures e delay =>
      simp [Note.metrics, Note.gauge?, readings, Event.consecutiveFailures?]
    | keyed note =>
      have quiet : readings Event.consecutiveFailures? name (note.metrics name) = [] := by
        cases note with
        | finished key round elapsed o => cases o <;> rfl
        | hit _ _ | joined _ _ _ | missed _ _ | answered _ _ _ _ => rfl
      exact congrArg (· ++ notes.filterMap Note.gauge?) quiet
    | foundExpired | answered _ _ | armed _ _ | started | stopped | refreshing _ | refreshed _
    | discarded _ => rfl

/-- Whoever reads the published token reads what a reader would be given whose turn it is. -/
theorem current?_eq_some_iff {n : Nat} (published : s.published = s.held.map Held.token)
    (acts : s.Acts n .get) (token : Token) :
    s.current? env.now = some token ↔
      step cfg env s (.act (.caller n)) = some (env, s.leave n, [.answered n (.ok token)]) := by
  have current : s.current? env.now = (s.usable? env.now).map Held.token := by
    unfold current? usable?
    rw [published]
    cases s.held with
    | none => rfl
    | some h =>
      cases alive : h.token.isExpired env.now <;> simp [Option.filter, alive]
  rw [current]
  cases usable : s.usable? env.now with
  | some h => simp [step, act, acts.holds, acts.queued, usable, answer, leave]
  | none =>
    simp only [step, act, acts.holds, acts.queued, usable, if_true, Option.map_some, Option.map_none,
      reduceCtorEq, Option.some.injEq, Prod.mk.injEq, false_iff, not_and]
    intro _ _ told
    split at told <;> cases told

end Step

/-! ## Runs -/

/-- All that the gauge is set to on the way. -/
def gauges (moves : List (Move State Event Note)) : List Int :=
  moves.flatMap fun m => m.notes.filterMap Note.gauge?

/-- What is remembered, as the moves have it. -/
structure Booked (moves : List (Move State Event Note)) (s : State) : Prop where
  held : s.held = (installed moves).getLast?
  published : s.published = s.held.map Held.token
  failures : s.failures = min (failed moves).length failureBound
  lastError : s.lastError = (failed moves).getLast?
  gauge : (gauges moves).getLast? =
    if installed moves = [] ∧ moves.filterMap failure? = [] then none else some (s.failures : Int)

section Run

variable {cfg : Config} {world : Surroundings → State → Surroundings → Prop}
  {moves : List (Move State Event Note)} {env : Surroundings} {s s' : State}

theorem Booked.start : Booked [] State.start := ⟨rfl, rfl, rfl, rfl, rfl⟩

theorem filterMap_failure?_concat (moves : List (Move State Event Note)) (m : Move State Event Note) :
    (moves ++ [m]).filterMap failure? = moves.filterMap failure? ++ (failure? m).toList := by
  rw [List.filterMap_append]
  cases hf : failure? m <;> simp [hf]

theorem failed_concat (moves : List (Move State Event Note)) (m : Move State Event Note) :
    failed (moves ++ [m]) = if (m.notes.filterMap Note.installed?).isEmpty then
      failed moves ++ (failure? m).toList else [] := by
  unfold failed
  rw [List.rtakeWhile_concat]
  split
  · exact filterMap_failure?_concat _ m
  · rfl

theorem Booked.concat (h : Booked moves s) {m : Move State Event Note}
    (books : Books s s' (m.notes.filterMap Note.installed?) (failure? m)
      (m.notes.filterMap Note.gauge?)) : Booked (moves ++ [m]) s' := by
  have hinstalled : installed (moves ++ [m]) =
      installed moves ++ m.notes.filterMap Note.installed? := by
    simp [installed]
  have hgauges : gauges (moves ++ [m]) = gauges moves ++ m.notes.filterMap Note.gauge? := by
    simp [gauges]
  have hfailures := filterMap_failure?_concat moves m
  have hfailed := failed_concat moves m
  generalize m.notes.filterMap Note.installed? = tokens, failure? m = failure,
    m.notes.filterMap Note.gauge? = levels at books hinstalled hgauges hfailures hfailed
  cases books with
  | rests held published failures lastError =>
    have same : failed (moves ++ [m]) = failed moves := by simpa using hfailed
    constructor
    case held => rw [held, h.held, hinstalled, List.append_nil]
    case published => rw [published, held, h.published]
    case failures => rw [failures, h.failures, same]
    case lastError => rw [lastError, h.lastError, same]
    case gauge =>
      rw [hgauges, hinstalled, hfailures, failures, List.append_nil, List.append_nil]
      simpa using h.gauge
  | @installs token held published failures lastError =>
    have none_since : failed (moves ++ [m]) = [] := by simpa using hfailed
    constructor
    case held => rw [held, hinstalled, List.getLast?_concat]
    case published => rw [published, held]; rfl
    case failures => rw [failures, none_since]; rfl
    case lastError => rw [lastError, none_since]; rfl
    case gauge =>
      rw [hgauges, hinstalled, failures, List.getLast?_concat, if_neg (by simp)]
      rfl
  | @fails e count held published counted failures lastError =>
    have one_more : failed (moves ++ [m]) = failed moves ++ [e] := by simpa using hfailed
    constructor
    case held => rw [held, h.held, hinstalled, List.append_nil]
    case published => rw [published, held, h.published]
    case failures =>
      rw [failures, counted, h.failures, one_more, List.length_append, List.length_singleton]
      omega
    case lastError => rw [lastError, one_more, List.getLast?_concat]
    case gauge => rw [hgauges, hfailures, failures, List.getLast?_concat, if_neg (by simp)]

theorem run_booked (run : (system cfg world).Run moves env s) : Booked moves s := by
  obtain ⟨env₀, path⟩ := run
  induction path with
  | nil => exact .start
  | wait _ _ ih => exact ih
  | move _ hs ih => exact ih.concat (step_transition hs).books

/-- The gauge was set if a token was installed or a refresh failed. -/
theorem Booked.gauge_of_any (h : Booked moves s)
    (any : ∃ m ∈ moves, (∃ token, .installed token ∈ m.notes) ∨ ∃ e, failure? m = some e) :
    (gauges moves).getLast? = some (s.failures : Int) := by
  rw [h.gauge, if_neg]
  rintro ⟨hinstalled, hfailures⟩
  obtain ⟨m, hm, ⟨token, htoken⟩ | ⟨e, he⟩⟩ := any
  · have there : token ∈ installed moves :=
      List.mem_flatMap.2 ⟨m, hm, List.mem_filterMap.2 ⟨_, htoken, rfl⟩⟩
    rw [hinstalled] at there
    cases there
  · have there : e ∈ moves.filterMap failure? := List.mem_filterMap.2 ⟨m, hm, he⟩
    rw [hfailures] at there
    cases there

theorem readings_measured (name : String) (moves : List (Move State Event Note)) :
    readings Event.consecutiveFailures? name (measured (Note.metrics name) moves) = gauges moves := by
  induction moves with
  | nil => rfl
  | cons m moves ih =>
    show readings _ name (m.notes.flatMap (Note.metrics name) ++ measured _ moves) = _
    rw [readings_append, readings_gauge, ih]
    rfl

/-- What the cache remembers agrees with what it holds and with what happened.

The published token is the held one, which is the one installed last; so whoever reads it without a
call reads what a reader would be given at once, were it its turn, and nothing where that reader
would fetch.  There is an error if and only if failures are counted.  The number of failures is that
of the refreshes that counted and failed since the last token was installed, as far as it goes, and
the error is that of the latest of them.  The gauge of the cache shows the number of failures once a
token was installed or a refresh failed, whatever else is recorded, provided that nobody else sets
the gauge. -/
theorem bookkeeping_agrees (run : (system cfg world).Run moves env s) :
    (s.published = s.held.map Held.token ∧ s.held = (installed moves).getLast?) ∧
    (∀ n token, s.current? env.now = some token ↔
      step cfg env (s.turn n) (.act (.caller n)) =
        some (env, (s.turn n).leave n, [.answered n (.ok token)])) ∧
    (∀ n, s.Acts n .get → ∀ token, s.current? env.now = some token ↔
      step cfg env s (.act (.caller n)) = some (env, s.leave n, [.answered n (.ok token)])) ∧
    (s.failures = 0 ↔ s.lastError = none) ∧
    (s.failures = min (failed moves).length failureBound ∧
      s.lastError = (failed moves).getLast?) ∧
    ∀ registry events,
      readings Event.consecutiveFailures? cfg.name events =
        readings Event.consecutiveFailures? cfg.name (measured (Note.metrics cfg.name) moves) →
      (∃ m ∈ moves, (∃ token, .installed token ∈ m.notes) ∨ ∃ e, failure? m = some e) →
      (Registry.recordAll registry events).consecutiveFailures.get? cfg.name =
        some (s.failures : Int) := by
  have booked := run_booked run
  refine ⟨⟨booked.published, booked.held⟩, ?_, ?_, ?_, ⟨booked.failures, booked.lastError⟩, ?_⟩
  · intro n token
    have acts : (s.turn n).Acts n .get := ⟨rfl, Table.get?_insert_self _ _ _⟩
    exact current?_eq_some_iff (s := s.turn n) booked.published acts token
  · intro n acts token
    exact current?_eq_some_iff booked.published acts token
  · rw [booked.failures, booked.lastError, List.getLast?_eq_none_iff, ← List.length_eq_zero_iff]
    have bound : 0 < failureBound := by decide
    omega
  · intro registry events own any
    rw [Registry.consecutiveFailures_recordAll, own, readings_measured, booked.gauge_of_any any]
    rfl

end Run

/-- A refresh fails.  Timers are turned off and on, and off again while the next refresh is in
flight, so that its failure does not count: one failure is remembered, and the gauge shows it. -/
theorem bookkeeping_agrees_superseded :
    ∃ cfg moves env s, (system cfg fun _ _ _ => True).Run moves env s ∧
      (∃ m ∈ moves, .discarded 2 ∈ m.notes) ∧ failed moves = [.fetch "\x7b\x7d" ["down"]] ∧
      s.failures = min (failed moves).length failureBound ∧
      step cfg env (s.turn 9) (.act (.caller 9)) =
        some (env, (s.turn 9).leave 9, [.answered 9 (.ok ⟨"first", 100⟩)]) ∧
      (Registry.recordAll {} (measured (Note.metrics cfg.name) moves)).consecutiveFailures.get?
        cfg.name = some (s.failures : Int) := by
  let cfg : Config :=
    { name := "token", parameters := .empty, lead := 10, backoff := { base := 1, limit := 8 } }
  have fetched : (system cfg fun _ _ _ => True).Path .start .start _ _ _ :=
    .of_replay [.enter 0 .get, .act (.caller 0), .keyed (.look (.caller 0) .empty),
      .keyed (.decide (.caller 0)),
      .keyed (.finish 0 (.returned (.ok (Token.toResource ⟨"first", 100⟩ 0)))),
      .keyed (.settle (.caller 0))] rfl
  have due := fetched.wait (show (system cfg fun _ _ _ => True).world _ _
    (Surroundings.start.pass 90) from trivial)
  have failing := due.trans (.of_replay [.fire 0, .keyed (.look (.refresh 0) .empty),
    .keyed (.decide (.refresh 0)), .keyed (.finish 1 (.returned (.error (.plain "down")))),
    .keyed (.settle (.refresh 0)), .act (.refresh 0)] rfl)
  have superseded := failing.trans (.of_replay [.enter 1 .stop, .act (.caller 1), .enter 2 .start,
    .act (.caller 2), .fire 2, .keyed (.look (.refresh 2) .empty), .keyed (.decide (.refresh 2)),
    .enter 3 .stop, .act (.caller 3), .keyed (.finish 2 (.returned (.error (.plain "lost")))),
    .keyed (.settle (.refresh 2)), .act (.refresh 2)] rfl)
  have run : (system cfg fun _ _ _ => True).Run _ _ _ := ⟨_, superseded⟩
  obtain ⟨-, turn, -, -, ⟨counted, -⟩, shown⟩ := bookkeeping_agrees run
  refine ⟨cfg, _, _, _, run, ⟨_, List.mem_append_right _ (List.mem_of_getElem?
    (show _[11]? = some _ from rfl)), .head _⟩, rfl, counted, (turn 9 _).1 rfl,
    shown {} _ rfl ⟨_, List.mem_append_left _ (List.mem_append_left _ (List.mem_of_getElem?
      (show _[5]? = some _ from rfl))), .inl ⟨_, .tail _ (.head _)⟩⟩⟩

end TokenCache
end SingleFlight
