import SingleFlight.Proofs.Redaction
import SingleFlight.Proofs.Retry
import SingleFlight.Proofs.TokenCache.Answers
import SingleFlight.Proofs.TokenCache.Outage

/-!
One notion of configuration error.

Three parts of the program ask whether a failure is worth a repetition.  A cache classifies what its
fetcher fails with, once, and every caller is told the result; a retried operation looks for an error
of ours under the contexts of its failure; and a token cache looks at the kind of the error that its
refresh was told.  `Failure.classify_isConfiguration` is why they agree: the classification has the
kind of the error of ours, if there is one, and is a fetch error otherwise.

Of a retried operation `Retry.last_iff` says when a call is the last without need, and of a token
cache `Transition.after_failure` says what a failed refresh leaves behind.
-/

namespace SingleFlight

namespace Failure

/-- The failure under more contexts, the outermost first. -/
def under (f : Failure) (texts : List String) : Failure :=
  texts.foldr (fun text g => g.context text) f

theorem under_eq (f : Failure) (texts : List String) :
    f.under texts = { contexts := texts ++ f.contexts, root := f.root } :=
  foldr_context texts f

/-- An error of ours or a text, and the contexts around it. -/
theorem eq_under (f : Failure) :
    (∃ e, f = (ofResourceError e).under f.contexts) ∨
      ∃ text, f = (plain text).under f.contexts := by
  obtain ⟨contexts, root⟩ := f
  cases root with
  | resource e => exact .inl ⟨e, by simp [under_eq, ofResourceError]⟩
  | plain text => exact .inr ⟨text, by simp [under_eq, plain]⟩

theorem classify_under_resource (parameters : String) (e : ResourceError) (texts : List String) :
    ((ofResourceError e).under texts).classify parameters = e := by
  rw [under_eq]
  rfl

theorem classify_under_plain (parameters text : String) (texts : List String) :
    ((plain text).under texts).classify parameters = .fetch parameters (texts ++ [text]) := by
  rw [under_eq]
  simp [classify, plain, chain, Root.text]

/-- A failure is a configuration error if and only if its classification is one. -/
theorem classify_isConfiguration (parameters : String) (f : Failure) :
    (f.classify parameters).isConfiguration = f.isConfiguration := by
  obtain ⟨contexts, root⟩ := f
  cases root <;> rfl

end Failure

namespace Retry

variable {α : Type} {p : Policy} {op : Operation α} {now k : Nat}

/-- The run ends with its last call, which is the first whose outcome is settled or the last that is
allowed. -/
theorem run_ends (p : Policy) (op : Operation α) (now : Nat) :
    (run p op now).result = (call p op now (run p op now).calls.length).2 ∧
    (∀ k, 1 ≤ k → k < (run p op now).calls.length → ¬ Settled (call p op now k).2) ∧
    ((run p op now).calls.length < p.attempts →
      Settled (call p op now (run p op now).calls.length).2) := by
  obtain ⟨m, -, calls, last, before, stop⟩ := runFrom_calls p op now (p.attempts - 1) 0
  simp only [Nat.zero_add] at last before stop
  have length : (run p op now).calls.length = m + 1 := by
    simpa [run, began] using congrArg List.length calls
  rw [length]
  exact ⟨congrArg Prod.snd last, fun k first earlier => before k first (by omega),
    fun more => stop (by omega)⟩

/-- Among the calls after which another is allowed, the last that is made is the one whose outcome
is settled. -/
theorem last_iff (first : 1 ≤ k) (made : k ≤ (run p op now).calls.length)
    (more : k < p.attempts) :
    (run p op now).calls.length = k ↔ Settled (call p op now k).2 := by
  obtain ⟨-, before, stop⟩ := run_ends p op now
  constructor
  · rintro rfl
    exact stop more
  · intro settled
    by_contra other
    exact before k first (by omega) settled

end Retry

namespace Cache

/-- Only a round that was started ends. -/
theorem Transition.finish_known {ι κ α : Type} [DecidableEq ι] [DecidableEq κ]
    {describe : κ → String} {env env' : Surroundings} {s s' : State ι κ α}
    {notes : List (Note ι κ α)} {n : Nat} {ending : Ending (Resource α)}
    (t : Transition describe env s (.finish n ending) env' s' notes) : ∃ key, s.Known key n := by
  cases t with
  | hit looks _ _ | join looks _ _ => cases looks
  | finish known _ _ => exact ⟨_, _, known, rfl⟩

end Cache

namespace TokenCache

open State

variable {cfg : Config} {env env' : Surroundings} {s s' : State} {notes : List Note}
  {moves : List (Move State Event Note)} {m : Move State Event Note} {id round : Nat}
  {e : ResourceError} {h : Held}

/-- What the source gave a round, seen through the refresh window, stays its outcome. -/
theorem outcome_of_finish (run : (system cfg Clock).Run moves env s) (hm : m ∈ moves)
    {ending : Ending (Resource Token)} (ends : m.event = .keyed (.finish round ending)) :
    s.keyed.outcome? round =
      some ((Token.windowed m.env.now cfg.lead ending).outcome cfg.parameters.text) := by
  obtain ⟨_, _, _, -, first, hs, rest⟩ := run.cut_of_mem hm
  have coherent := run_coherent first
  have t := step_transition hs
  refine path_outcome rest (t.coherent coherent) ?_
  rw [ends] at t
  obtain ⟨-, _, t, -⟩ := t.of_keyed
  obtain ⟨key, r, known, rfl⟩ := t.finish_known
  have own : r.key = cfg.parameters := (run_kept first).keys round r known
  rw [← own]
  exact t.finish_outcome ⟨r, known, rfl⟩

/-- What is left of a failed refresh while the held token lives: the error, and a timer unless the
error is one of the configuration. -/
theorem Transition.after_failure (t : Transition cfg env s (.act (.refresh id)) env' s' notes)
    (returned : s.tasks.get? id = some (.returned round (.error e)))
    (counts : s.timer.map Timer.id = some id) (usable : s.usable? env.now = some h)
    (enabled : s.enabled = true) :
    s'.held = s.held ∧ s'.lastError = some e ∧
      s'.timer = if e.isConfiguration then none else
        some ⟨s.nextTimer, Instant.after env.now (cfg.backoff.delay s'.failures)⟩ := by
  cases t with
  | discard _ other => exact absurd counts other
  | refresh returns _ => cases returns.returned.symm.trans returned
  | giveUp returns _ reason =>
    cases returns.returned.symm.trans returned
    have configuration : e.isConfiguration = true :=
      reason.resolve_right (by rw [usable]; exact nofun)
    refine ⟨rfl, rfl, ?_⟩
    rw [if_pos configuration]
    rfl
  | retry returns _ temporary _ hdelay =>
    cases returns.returned.symm.trans returned
    subst hdelay
    simp only [retire, unlock, arm_fst, noteFailure, enabled, temporary, if_true,
      Bool.false_eq_true, if_false, true_and]

end TokenCache

/-- One notion of configuration error.

Whatever contexts were put around it, a failure is an error of ours or a text.  The classification
is that error, untouched, or a fetch error that shows the parameters without their secrets and keeps
the whole chain; and to classify it again, in whatever contexts and for whatever parameters, changes
nothing.  A retried operation that could be called again gives the failure up if and only if the
classification is a configuration error.  And a refresh whose round ended with the failure, at a time
when the held token lives, keeps the token and is told the classification; no other refresh follows
if it is a configuration error, and otherwise one follows after the delay. -/
theorem Failure.classification_shared (f : Failure) (parameters : ParameterSet) :
    ((∃ e, f = (ofResourceError e).under f.contexts ∧ f.classify parameters.text = e) ∨
      ∃ text, f = (plain text).under f.contexts ∧
        f.classify parameters.text = .fetch parameters.text (f.contexts ++ [text])) ∧
    (∀ other, parameters.Alike other →
      f.classify other.text = f.classify parameters.text) ∧
    (∀ texts again, ((ofResourceError (f.classify parameters.text)).under texts).classify again =
      f.classify parameters.text) ∧
    (∀ {α : Type} (p : Retry.Policy) (op : Retry.Operation α) (now k : Nat), 1 ≤ k →
      k ≤ (Retry.run p op now).calls.length → k < p.attempts →
      (Retry.call p op now k).2 = .error f →
      ((Retry.run p op now).calls.length = k ∧ (Retry.run p op now).result = .error f ↔
        (f.classify parameters.text).isConfiguration = true)) ∧
    ∀ (cfg : TokenCache.Config) moves env s, cfg.parameters = parameters →
      (TokenCache.system cfg TokenCache.Clock).Run moves env s →
      ∀ m ∈ moves, ∀ ended ∈ moves, ∀ t n o h,
        ended.event = .keyed (.finish n (.returned (.error f))) → m.event = .act (.refresh t) →
        m.before.tasks.get? t = some (.returned n o) →
        m.before.timer.map TokenCache.Timer.id = some t → m.before.usable? m.env.now = some h →
        o = .error (f.classify parameters.text) ∧ m.after.held = some h ∧
          m.after.lastError = some (f.classify parameters.text) ∧
          m.after.timer = if (f.classify parameters.text).isConfiguration then none else
            some ⟨m.before.nextTimer,
              Instant.after m.env.now (cfg.backoff.delay m.after.failures)⟩ := by
  refine ⟨?_, fun other alike => ?_, fun texts again => ?_, ?_, ?_⟩
  · rcases f.eq_under with ⟨e, eq⟩ | ⟨text, eq⟩
    · exact .inl ⟨e, eq, by rw [eq, classify_under_resource]⟩
    · refine .inr ⟨text, eq, ?_⟩
      conv_lhs => rw [eq]
      exact classify_under_plain ..
  · rw [alike.text_eq]
  · exact classify_under_resource ..
  · intro α p op now k first made more fails
    rw [classify_isConfiguration, ← ofConfiguration_iff]
    have last := Retry.last_iff first made more
    rw [fails] at last
    refine ⟨fun gives => last.1 gives.1, fun configuration => ?_⟩
    have count := last.2 configuration
    exact ⟨count, by rw [(Retry.run_ends p op now).1, count, fails]⟩
  · rintro cfg moves env s rfl run m hm ended he t n o h ends acts returned counts usable
    obtain ⟨_, _, _, -, first, hs, rest⟩ := run.cut_of_mem hm
    have forward := TokenCache.run_forward first
    have step := TokenCache.step_transition hs
    have told : o = .error (f.classify cfg.parameters.text) := by
      have before := forward.returned t n o returned
      have after := TokenCache.path_outcome rest (step.coherent forward.coherent)
        (step.outcome?_stays forward.coherent before)
      exact Option.some.inj (after.symm.trans (TokenCache.outcome_of_finish run he ends))
    obtain ⟨timer, htimer, -⟩ := Option.map_eq_some_iff.1 counts
    rw [acts] at step
    obtain ⟨held, lastError, next⟩ :=
      step.after_failure (told ▸ returned) counts usable (forward.tethered.enabled timer htimer)
    exact ⟨told, held.trans (TokenCache.State.usable?_eq_some_iff.1 usable).1, lastError, next⟩

/-- Tokens are refreshed four milliseconds before they expire, which leaves time to try again. -/
def TokenCache.early : Config :=
  { name := "token", parameters := .empty, lead := 4000000, backoff := { base := 1, limit := 8 } }

def Failure.disconnected : Failure := (plain "connection reset").context "token request"

def Failure.unconfigured : Failure :=
  (ofResourceError (.configuration "no client secret")).context "token request"

/-- The failure of the second call in `Retry.misconfigured`.  Five calls are allowed and two are
made.  Of a token cache with such a source the first refresh fails because of the network, and is
repeated; the second fails with this failure, and is not. -/
theorem Failure.classification_shared_misconfigured :
    (Retry.run (.make 5 ⟨100, 250⟩) Retry.misconfigured 0).calls.length = 2 ∧
    ∃ cfg moves env s, (TokenCache.system cfg TokenCache.Clock).Run moves env s ∧
      ∃ m ∈ moves, ∃ m' ∈ moves, m.event = .act (.refresh 0) ∧ m'.event = .act (.refresh 1) ∧
        m.after.timer.map TokenCache.Timer.id = some 1 ∧ m'.after.timer = none ∧
        m'.after.held.isSome = true ∧
        m'.after.lastError = some (.configuration "no client secret") := by
  have fetched : (TokenCache.system TokenCache.early TokenCache.Clock).Path .start .start _ _ _ :=
    .of_replay [.enter 0 .get, .act (.caller 0), .keyed (.look (.caller 0) .empty),
      .keyed (.decide (.caller 0)),
      .keyed (.finish 0 (.returned (.ok (Token.toResource ⟨"first", 8000000⟩ 0)))),
      .keyed (.settle (.caller 0))] rfl
  have due := fetched.wait (show (TokenCache.system TokenCache.early TokenCache.Clock).world _ _
    (Surroundings.start.pass 4000000) from Nat.zero_le 4000000)
  have failed := due.trans (.of_replay [.fire 0, .keyed (.look (.refresh 0) .empty),
    .keyed (.decide (.refresh 0)), .keyed (.finish 1 (.returned (.error disconnected))),
    .keyed (.settle (.refresh 0)), .act (.refresh 0)] rfl)
  have again := failed.wait (show (TokenCache.system TokenCache.early TokenCache.Clock).world _ _
    (Surroundings.start.pass 5000000) from (by decide : 4000000 ≤ 5000000))
  have stopped := again.trans (.of_replay [.fire 1, .keyed (.look (.refresh 1) .empty),
    .keyed (.decide (.refresh 1)), .keyed (.finish 2 (.returned (.error unconfigured))),
    .keyed (.settle (.refresh 1)), .act (.refresh 1)] rfl)
  have run : (TokenCache.system TokenCache.early TokenCache.Clock).Run _ _ _ := ⟨_, stopped⟩
  obtain ⟨-, -, -, gives, stops⟩ := classification_shared unconfigured .empty
  obtain ⟨-, -, -, -, repeats⟩ := classification_shared disconnected .empty
  have twice := (gives (.make 5 ⟨100, 250⟩) Retry.misconfigured 0 2 (by decide) (by decide)
    (by decide) rfl).2 rfl
  -- In each of the two stretches the fetch ends with the fourth move, and the refresh with the last.
  have first := repeats TokenCache.early _ _ _ rfl run _
    (List.mem_append_left _ (List.mem_append_right _
      (.tail _ (.tail _ (.tail _ (.tail _ (.tail _ (.head _)))))))) _
    (List.mem_append_left _ (List.mem_append_right _
      (.tail _ (.tail _ (.tail _ (.head _)))))) 0 1 _ _ rfl rfl rfl rfl rfl
  have second := stops TokenCache.early _ _ _ rfl run _
    (List.mem_append_right _ (.tail _ (.tail _ (.tail _ (.tail _ (.tail _ (.head _))))))) _
    (List.mem_append_right _ (.tail _ (.tail _ (.tail _ (.head _))))) 1 2 _ _ rfl rfl rfl rfl rfl
  refine ⟨twice.1, TokenCache.early, _, _, _, run, _, List.mem_append_left _ (List.mem_append_right _
      (.tail _ (.tail _ (.tail _ (.tail _ (.tail _ (.head _))))))), _, List.mem_append_right _
      (.tail _ (.tail _ (.tail _ (.tail _ (.tail _ (.head _)))))), rfl, rfl, ?_, ?_, ?_, ?_⟩
  · rw [first.2.2.2]
    rfl
  · rw [second.2.2.2]
    rfl
  · rw [second.2.1]
    rfl
  · exact second.2.2.1

end SingleFlight
