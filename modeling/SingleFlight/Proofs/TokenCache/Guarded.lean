import SingleFlight.Proofs.Cache.Course
import SingleFlight.Proofs.TokenCache.Forward

/-!
What the lock guards.

The held token with its timer, whether timers are on, what is remembered of failures, and the
published token change under the lock only.  Whoever changes them has the lock, does so in a move of
its own, and is done (`Transition.guarded`): a caller that turns timers on or off, a reader that has
fetched a token, or a refresh whose timer still counts.

So an agent that has not come to its end has changed nothing yet, and nobody else does while a
reader keeps the lock and fetches (`Transition.untouched`).  A call that fails or is given up ends
without a change, and a refresh that does not count any more makes none: `setbacks_leave_state`.
-/

namespace SingleFlight
namespace TokenCache

open State

/-- The state of the token, and what is told of it. -/
structure Guarded where
  held : Option Held
  timer : Option Timer
  enabled : Bool
  failures : Nat
  lastError : Option ResourceError
  published : Option Token
deriving DecidableEq

def State.guarded (s : State) : Guarded :=
  { held := s.held
    timer := s.timer
    enabled := s.enabled
    failures := s.failures
    lastError := s.lastError
    published := s.published }

/-- Whose move the event is.  The end of a fetch is nobody's, and neither is the making and dropping
of handles. -/
def Event.agent? : Event → Option Agent
  | enter n _ => some (.caller n)
  | act a => some a
  | keyed e => e.caller?
  | fire t => some (.refresh t)
  | quit t => some (.refresh t)
  | cancel n => some (.caller n)
  | addHandle => none
  | dropHandle => none

/-- The moves from the one on in which the caller asks for the lock, while it is not answered. -/
structure Call (n : Nat) (wish : Wish) (span : List (Move State Event Note)) : Prop where
  opens : ∃ first rest, span = first :: rest ∧ first.before.callers.get? n = none ∧
    first.after.callers.get? n = some (.queued wish)
  stays : ∀ m ∈ span.tail, ∃ stage, m.before.callers.get? n = some stage

/-- The moves of the caller, and all moves while it fetches, change nothing that the lock guards. -/
def Untouched (n : Nat) (span : List (Move State Event Note)) : Prop :=
  ∀ m ∈ span, m.event.agent? = some (.caller n) ∨ m.before.callers.get? n = some .fetching →
    m.after.guarded = m.before.guarded

theorem Call.first {n : Nat} {wish : Wish} {m : Move State Event Note}
    (new : m.before.callers.get? n = none) (there : m.after.callers.get? n = some (.queued wish)) :
    Call n wish [m] :=
  ⟨⟨m, [], rfl, new, there⟩, fun m' hm' => by cases hm'⟩

theorem Call.extend {n : Nat} {wish : Wish} {span : List (Move State Event Note)}
    {m : Move State Event Note} {stage : CallerStage} (h : Call n wish span)
    (there : m.before.callers.get? n = some stage) : Call n wish (span ++ [m]) := by
  obtain ⟨first, rest, rfl, opens⟩ := h.opens
  refine ⟨⟨first, rest ++ [m], rfl, opens⟩, fun m' hm' => ?_⟩
  rcases List.mem_append.1 hm' with hm' | hm'
  · exact h.stays m' hm'
  · obtain rfl := List.mem_singleton.1 hm'
    exact ⟨stage, there⟩

theorem Untouched.nil (n : Nat) : Untouched n [] := by
  intro m hm
  cases hm

theorem Untouched.concat {n : Nat} {span : List (Move State Event Note)} {m : Move State Event Note}
    (h : Untouched n span)
    (last : m.event.agent? = some (.caller n) ∨ m.before.callers.get? n = some .fetching →
      m.after.guarded = m.before.guarded) : Untouched n (span ++ [m]) := by
  intro m' hm'
  rcases List.mem_append.1 hm' with hm' | hm'
  · exact h m' hm'
  · obtain rfl := List.mem_singleton.1 hm'
    exact last

/-! ## One step -/

section Step

variable {cfg : Config} {env env' : Surroundings} {s s' : State} {e : Event} {notes : List Note}
  {n t : Nat}

theorem State.holder_eq_head? (front : s.holder = none → s.queue = []) :
    s.holder = s.line.head? := by
  cases taken : s.holder with
  | none => rw [line, taken, front taken]; rfl
  | some a => rw [line_of_holder taken]; rfl

theorem not_asks_leave (s : State) (n : Nat) : ¬ (s.leave n).Asks (.caller n) := by
  rintro ⟨_, there⟩
  exact (Table.get?_of_get?_erase there).1 rfl

theorem not_asks_retire (s : State) (t : Nat) : ¬ (s.retire t).Asks (.refresh t) := by
  rintro ⟨_, _, there⟩
  exact (Table.get?_of_get?_erase there).1 rfl

theorem caller?_arriving (cfg : Config) (now : Nat) (ke : Cache.Event Agent ParameterSet Token) :
    (arriving cfg now ke).caller? = ke.caller? := by
  cases ke <;> rfl

/-- The keyed cache answers who takes the step. -/
theorem caller?_of_answered {ke : Cache.Event Agent ParameterSet Token} {now round : Nat}
    {k k' : Cache.State Agent ParameterSet Token} {a : Agent} {key : ParameterSet}
    {known : List (Cache.Note Agent ParameterSet Token)} {o : Outcome (Resource Token)}
    (t : Cache.Transition ParameterSet.text env k (arriving cfg now ke) env' k' known)
    (ha : .answered a key round o ∈ known) : ke.caller? = some a := by
  by_cases own : (arriving cfg now ke).caller? = some a
  · rwa [caller?_arriving] at own
  · exact absurd ha ((t.caller_elsewhere own).2 _ _ _)

/-- Whoever changes what the lock guards has the lock, and is done. -/
theorem Transition.guarded (t : Transition cfg env s e env' s' notes) (h : InLine env.now s)
    (orderly : Orderly s) : s'.guarded = s.guarded ∨
      ∃ a, s.holder = some a ∧ e.agent? = some a ∧ s.Counts a ∧ ¬ s'.Asks a := by
  cases t with
  | serve _ _ | fetch _ _ | discard _ _ | keyed _ _ _ | failed _ _ _ | fire _ _ _ | quit _ _
  | addHandle _ | dropHandle _ => exact .inl rfl
  | enter _ _ | returned _ _ _ =>
    rw [lock_eq]
    exact .inl rfl
  | cancel _ =>
    rw [cancel_eq]
    exact .inl rfl
  | keep acts _ | resume acts _ _ | idle acts _ _ | stop acts =>
    exact .inr ⟨_, acts.holds, rfl, trivial, not_asks_leave _ _⟩
  | refresh returns counts | giveUp returns counts _ | retry returns counts _ _ _ =>
    exact .inr ⟨_, returns.holds, rfl, counts, not_asks_retire _ _⟩
  | fetched permits t ha =>
    exact .inr ⟨_, h.answered orderly permits t ha, caller?_of_answered t ha, trivial,
      not_asks_leave _ _⟩

/-- A caller whose call goes on has changed nothing, and nobody changes anything while it
fetches. -/
theorem Transition.untouched (t : Transition cfg env s e env' s' notes) (h : InLine env.now s)
    (orderly : Orderly s) (goes_on : s'.Asks (.caller n))
    (mine : e.agent? = some (.caller n) ∨ s.callers.get? n = some .fetching) :
    s'.guarded = s.guarded := by
  rcases t.guarded h orderly with same | ⟨a, holds, own, -, done⟩
  · exact same
  · have mover : a = .caller n := by
      rcases mine with moves | fetching
      · exact Option.some.inj (own.symm.trans moves)
      · exact Option.some.inj (holds.symm.trans (h.fetching n fetching).1)
    rw [mover] at done
    exact absurd goes_on done

/-- A call that fails or is given up changes nothing and hands on the lock, if it had it. -/
theorem Transition.setback (t : Transition cfg env s e env' s' notes) (h : InLine env.now s)
    (orderly : Orderly s)
    (fails : (∃ error, .answered n (.error error) ∈ notes) ∨ e = .cancel n) :
    (∃ stage, s.callers.get? n = some stage) ∧ s'.guarded = s.guarded ∧
      s'.callers.get? n = none ∧ s'.line = s.line.erase (.caller n) := by
  rcases fails with ⟨error, told⟩ | rfl
  · cases t with
    | failed permits t ha =>
      obtain ⟨rfl, rfl⟩ := by simpa using told
      have holds := h.answered orderly permits t ha
      refine ⟨⟨_, mayRequest_caller.1 (orderly.answered permits t ha)⟩, rfl,
        Table.get?_erase_self _ _, ?_⟩
      rw [line_leave, line_of_holder holds, List.erase_cons_head]
    | fetch _ _ =>
      split at told <;> simp at told
    | resume _ _ _ | refresh _ _ | retry _ _ _ _ _ | fetched _ _ _ =>
      simp [mem_arm_snd, mem_install_snd] at told
    | enter _ _ | serve _ _ | keep _ _ | idle _ _ _ | stop _ | discard _ _ | giveUp _ _ _
    | keyed _ _ _ | returned _ _ _ | fire _ _ _ | quit _ _ | cancel _ | addHandle _
    | dropHandle _ => simp at told
  · cases t with
    | cancel there =>
      refine ⟨⟨_, there⟩, ?_, ?_, line_cancel h.distinct n⟩
      · rw [cancel_eq]
        rfl
      · rw [cancel_eq]
        exact Table.get?_erase_self _ _

/-- A refresh that failed leaves the held token and the published one. -/
theorem Transition.refresh_failed {round : Nat} {error : ResourceError}
    (step : Transition cfg env s (.act (.refresh t)) env' s' notes)
    (failed : s.tasks.get? t = some (.returned round (.error error))) :
    s'.held = s.held ∧ s'.published = s.published := by
  cases step with
  | discard _ _ | giveUp _ _ _ => exact ⟨rfl, rfl⟩
  | refresh returns _ => cases returns.returned.symm.trans failed
  | retry _ _ _ _ _ =>
    simp only [retire, unlock, arm_fst, noteFailure]
    exact ⟨trivial, trivial⟩

theorem Transition.discarded
    (step : Transition cfg env s (.act (.refresh t)) env' s' notes)
    (superseded : s.timer.map Timer.id ≠ some t) :
    notes = [.discarded t] ∧ s'.line = s.line.erase (.refresh t) := by
  cases step with
  | discard returns _ =>
    rw [line_retire, line_of_holder returns.holds, List.erase_cons_head]
    exact ⟨rfl, rfl⟩
  | refresh _ counts | giveUp _ counts _ | retry _ counts _ _ _ => exact absurd counts superseded

end Step

/-! ## Runs -/

section Run

variable {cfg : Config} {moves : List (Move State Event Note)} {env : Surroundings} {s : State}

/-- Whoever is at work has its call under way, and in it has changed nothing. -/
theorem call_under_way (run : (system cfg Clock).Run moves env s) :
    ∀ n stage, s.callers.get? n = some stage → ∃ before span wish, moves = before ++ span ∧
      Call n wish span ∧ Untouched n span := by
  obtain ⟨env₀, path⟩ := run
  induction path with
  | nil => nofun
  | wait _ _ ih => exact ih
  | @move moves env env' s s' e notes path hs ih =>
    intro n stage hn
    have t := step_transition hs
    have in_line := run_in_line ⟨_, path⟩
    have orderly := run_orderly ⟨_, path⟩
    have untouched := t.untouched in_line orderly (n := n) ⟨_, hn⟩
    have goes_on : ∀ {old}, s.callers.get? n = some old →
        ∃ before span wish, moves ++ [⟨env, s, e, notes, s'⟩] = before ++ span ∧
          Call n wish span ∧ Untouched n span := by
      intro old there
      obtain ⟨before, span, wish, rfl, call, kept⟩ := ih n old there
      exact ⟨before, _, wish, List.append_assoc _ _ _, call.extend there, kept.concat untouched⟩
    cases t.call orderly n with
    | stays same => exact goes_on (same.symm.trans hn)
    | fetches _ acts _ _ => exact goes_on acts.queued
    | @enters wish new there =>
      exact ⟨moves, _, wish, rfl, .first new there, (Untouched.nil n).concat untouched⟩
    | ends gone _ => cases gone.symm.trans hn

/-- What fails or is given up leaves the state of the token as it was.

A call that is told an error, or whose caller goes away, wherever it has come to, has changed
nothing that the lock guards in any of its moves, and nobody has while it fetched; its last move
takes it out of the line for the lock, which goes to whoever is next if the caller had it.  A
refresh changes nothing in any of its moves in which its timer is not the timer of the cache, so if
that is so when it has the lock its result is discarded, whatever that is.  And a refresh that
failed leaves the held token and what is read without a call, though it counts. -/
theorem setbacks_leave_state (run : (system cfg Clock).Run moves env s) :
    (∀ earlier m later n, moves = earlier ++ m :: later →
      (∃ error, .answered n (.error error) ∈ m.notes) ∨ m.event = .cancel n →
      ∃ before span wish, earlier = before ++ span ∧ Call n wish span ∧
        Untouched n (span ++ [m]) ∧ m.after.guarded = m.before.guarded ∧
        m.after.callers.get? n = none ∧ m.after.line = m.before.line.erase (.caller n) ∧
        m.after.holder = m.after.line.head?) ∧
    (∀ m ∈ moves, ∀ t, m.event.agent? = some (.refresh t) →
      m.before.timer.map Timer.id ≠ some t → m.after.guarded = m.before.guarded ∧
        (m.event = .act (.refresh t) → m.notes = [.discarded t] ∧
          m.after.line = m.before.line.erase (.refresh t))) ∧
    ∀ m ∈ moves, ∀ t round error, m.event = .act (.refresh t) →
      m.before.tasks.get? t = some (.returned round (.error error)) →
      m.after.held = m.before.held ∧ ∀ now, m.after.current? now = m.before.current? now := by
  refine ⟨?_, ?_, ?_⟩
  · intro earlier m later n hmoves fails
    obtain ⟨env₀, path⟩ := run
    obtain ⟨_, first, hs, -⟩ := path.cut hmoves
    have in_line := run_in_line ⟨_, first⟩
    have orderly := run_orderly ⟨_, first⟩
    have t := step_transition hs
    obtain ⟨⟨stage, there⟩, same, gone, line⟩ := t.setback in_line orderly fails
    obtain ⟨before, span, wish, hsplit, call, kept⟩ := call_under_way ⟨_, first⟩ n stage there
    exact ⟨before, span, wish, hsplit, call, kept.concat fun _ => same, same, gone, line,
      holder_eq_head? (t.front in_line.front)⟩
  · intro m hm t own superseded
    obtain ⟨_, _, _, -, first, hs, -⟩ := run.cut_of_mem hm
    have step := step_transition hs
    refine ⟨?_, fun hevent => (hevent ▸ step).discarded superseded⟩
    rcases step.guarded (run_in_line first) (run_orderly first) with same | ⟨a, -, own', counts, -⟩
    · exact same
    · obtain rfl : a = .refresh t := Option.some.inj (own'.symm.trans own)
      exact absurd counts superseded
  · intro m hm t round error hevent failed
    obtain ⟨_, _, _, -, first, hs, -⟩ := run.cut_of_mem hm
    obtain ⟨held, published⟩ := (hevent ▸ step_transition hs).refresh_failed failed
    exact ⟨held, fun now => by rw [current?, current?, published]⟩

end Run

/-- A reader joins the round of a refresh and is told that it failed.  Timers are turned off before
the refresh gets the lock, so its failure is discarded: neither changes anything. -/
theorem setbacks_leave_state_joined :
    ∃ cfg earlier m later env s, (system cfg Clock).Run (earlier ++ m :: later) env s ∧
      .answered 1 (.error (.fetch "\x7b\x7d" ["down"])) ∈ m.notes ∧
      m.after.guarded = m.before.guarded ∧ m.after.holder = m.after.line.head? ∧
      (∃ before span wish, earlier = before ++ span ∧ Call 1 wish span ∧
        Untouched 1 (span ++ [m])) ∧
      ∃ m' ∈ later, m'.event = .act (.refresh 0) ∧ m'.notes = [.discarded 0] ∧
        m'.after.guarded = m'.before.guarded ∧ m'.after.held = m'.before.held := by
  let cfg : Config :=
    { name := "token", parameters := .empty, lead := 10, backoff := { base := 1, limit := 8 } }
  have fetched : (system cfg Clock).Path .start .start _ _ _ :=
    .of_replay [.enter 0 .get, .act (.caller 0), .keyed (.look (.caller 0) .empty),
      .keyed (.decide (.caller 0)),
      .keyed (.finish 0 (.returned (.ok (Token.toResource ⟨"first", 100⟩ 0)))),
      .keyed (.settle (.caller 0))] rfl
  have due := fetched.wait (show (system cfg Clock).world _ _ (Surroundings.start.pass 90) from
    Nat.zero_le 90)
  have asked := due.trans (.of_replay [.fire 0, .keyed (.look (.refresh 0) .empty),
    .keyed (.decide (.refresh 0))] rfl)
  have expired := asked.wait (show (system cfg Clock).world _ _ (Surroundings.start.pass 100) from
    (by decide : 90 ≤ 100))
  have joined := expired.trans (.of_replay [.enter 1 .get, .act (.caller 1),
    .keyed (.look (.caller 1) .empty), .enter 2 .get, .cancel 2,
    .keyed (.finish 1 (.returned (.error (.plain "down"))))] rfl)
  have told := joined.trans (.of_replay [.keyed (.settle (.caller 1)), .enter 3 .stop,
    .act (.caller 3), .keyed (.settle (.refresh 0)), .act (.refresh 0)] rfl)
  have run : (system cfg Clock).Run _ _ _ := ⟨_, told⟩
  obtain ⟨calls, refreshes, failures⟩ := setbacks_leave_state run
  obtain ⟨before, span, wish, hsplit, call, untouched, same, -, -, handed⟩ :=
    calls _ _ _ 1 rfl (.inl ⟨_, .tail _ (.head _)⟩)
  obtain ⟨same', discarded⟩ := refreshes _ (List.mem_append_right _
    (List.mem_of_getElem? (show _[4]? = some _ from rfl))) 0 rfl (by decide)
  obtain ⟨kept, -⟩ := failures _ (List.mem_append_right _
    (List.mem_of_getElem? (show _[4]? = some _ from rfl))) 0 _ _ rfl rfl
  exact ⟨cfg, _, _, _, _, _, run, .tail _ (.head _), same, handed,
    ⟨before, span, wish, hsplit, call, untouched⟩,
    _, .tail _ (.tail _ (.tail _ (.head _))), rfl, (discarded rfl).1, same', kept⟩

end TokenCache
end SingleFlight
