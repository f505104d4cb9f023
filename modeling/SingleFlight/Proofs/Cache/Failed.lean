import SingleFlight.Proofs.Cache.Course
import SingleFlight.Proofs.Cache.Origins
import SingleFlight.Proofs.Redaction

/-!
What a round leaves behind that failed.

Its failure is there for all who wait for it, and for nobody else.  The entry of the key may go on
to show the round in flight, for as long as none of its callers settles it; but this keeps nobody
off.  A new request starts a round of its own, unless a later one was started before
(`State.Failed.spent`).
-/

namespace SingleFlight
namespace Cache

variable {ι κ α : Type} [DecidableEq ι] [DecidableEq κ]

/-- The round of the key has failed so, and the key has come as far as this round. -/
structure State.Failed (s : State ι κ α) (key : κ) (n : Nat) (e : ResourceError) : Prop where
  outcome : s.outcome? n = some (.error e)
  reached : s.Reached key n

/-- All that a failed round of the key does from now on: whoever waits for it can be told so now,
and takes the entry of the round away with the answer; and as long as no later round of the key is
known, a new request is not held up by the round and starts the next. -/
structure State.Spent (describe : κ → String) (env : Surroundings) (s : State ι κ α) (key : κ)
    (n : Nat) (e : ResourceError) : Prop where
  outcome : s.outcome? n = some (.error e)
  told : ∀ c, s.callers.get? c = some (.awaiting key n) →
    ∃ s', step describe env s (.settle c) = some (env, s', [.answered c key n (.error e)]) ∧
      s'.entries.get? key ≠ some (.inFlight n)
  free : (∀ m, n < m → ¬ s.Known key m) → ∀ c,
    (s.callers.get? c = none →
      ∃ s', step describe env s (.look c key) = some (env, s', []) ∧
        s'.callers.get? c = some (.undecided key)) ∧
    (s.callers.get? c = some (.undecided key) →
      step describe env s (.decide c) =
        some (env, s.startRound env.now c key, [.missed key s.started]))

section Step

variable {describe : κ → String} {env env' : Surroundings} {s s' : State ι κ α}
  {e : Event ι κ α} {notes : List (Note ι κ α)} {key : κ} {n : Nat} {error : ResourceError}

theorem State.Failed.leave (h : s.Failed key n error) (c : ι) : (s.leave c).Failed key n error :=
  ⟨h.outcome, h.reached.started, h.reached.entry⟩

theorem Transition.failed (t : Transition describe env s e env' s' notes) (coherent : Coherent s)
    (h : s.Failed key n error) : s'.Failed key n error :=
  ⟨t.outcome?_stays coherent h.outcome, t.reached h.reached⟩

theorem Transition.finish_running {ending : Ending (Resource α)}
    (t : Transition describe env s (.finish n ending) env' s' notes) (known : s.Known key n) :
    s.Running key n := by
  obtain ⟨r, hr, hkey⟩ := known
  cases t with
  | hit looks _ _ | join looks _ _ => cases looks
  | @finish _ r' _ hr' unended _ =>
    obtain rfl : r = r' := Option.some.inj (hr.symm.trans hr')
    exact ⟨r, hr, hkey, unended⟩

theorem Transition.finish_failed {ending : Ending (Resource α)}
    (t : Transition describe env s (.finish n ending) env' s' notes) (coherent : Coherent s)
    (known : s.Known key n) (fails : ending.outcome (describe key) = .error error) :
    s'.Failed key n error := by
  have ended : s'.outcome? n = some (.error error) := fails ▸ t.finish_outcome known
  have entry := coherent.running key n (t.finish_running known)
  exact ⟨ended, t.reached (coherent.reached entry)⟩

/-- No entry but the round's own is left of a failed round or an earlier one. -/
theorem State.Failed.entry (h : s.Failed key n error) (coherent : Coherent s)
    (latest : ∀ m, n < m → ¬ s.Known key m) {slot : Slot α}
    (entry : s.entries.get? key = some slot) : slot = .inFlight n := by
  have known := coherent.round_known entry
  have same : slot.round = n := by
    rcases Nat.eq_or_lt_of_le (h.reached.entry slot entry) with same | later
    · exact same.symm
    · exact absurd known (latest slot.round later)
  cases slot with
  | inFlight m => exact congrArg Slot.inFlight same
  | ready m resource =>
    obtain rfl : m = n := same
    obtain ⟨r, hr, -, ended⟩ := coherent.ready key m resource entry
    have ok : s.outcome? m = some (.ok resource) := State.outcome?_eq_some_iff.2 ⟨r, hr, ended⟩
    rw [h.outcome] at ok
    cases ok

theorem State.Failed.spent (h : s.Failed key n error) (coherent : Coherent s)
    (describe : κ → String) (env : Surroundings) : s.Spent describe env key n error := by
  have idle : s.isRunning n = false := by
    rw [Bool.eq_false_iff]
    intro running
    have unended := State.outcome?_of_isRunning running
    rw [h.outcome] at unended
    cases unended
  refine ⟨h.outcome, fun c waits => ?_, fun latest c => ⟨fun new => ?_, fun undecided => ?_⟩⟩
  · refine ⟨{ s.leave c with entries := State.settleEntry s.entries key n (.error error) },
      by simp only [step, waits, h.outcome], ?_⟩
    show (State.settleEntry s.entries key n (.error error)).get? key ≠ some (.inFlight n)
    by_cases entry : s.entries.get? key = some (.inFlight n)
    · rw [State.get?_settleEntry_self entry, Slot.left]
      exact Option.some_ne_none _ |>.symm
    · rw [State.settleEntry_eq_self entry]
      exact entry
  · refine ⟨{ s with callers := s.callers.insert c (.undecided key) }, ?_,
      Table.get?_insert_self _ _ _⟩
    cases entry : s.entries.get? key with
    | none => simp only [step, new, firstLook, entry]
    | some slot =>
      obtain rfl := h.entry coherent latest entry
      simp [step, new, firstLook, entry, idle]
  · cases entry : s.entries.get? key with
    | none => simp only [step, undecided, secondLook, entry, miss]
    | some slot =>
      obtain rfl := h.entry coherent latest entry
      simp [step, undecided, secondLook, entry, idle, h.outcome, miss]

end Step

end Cache
end SingleFlight
