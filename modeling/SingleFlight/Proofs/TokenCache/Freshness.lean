import SingleFlight.Proofs.Cache.Answers
import SingleFlight.Proofs.TokenCache.Transition

/-!
No expired token is served.

A token reaches a reader in one of two ways.  The held token is looked at as it is handed out.  What
the keyed cache answers is the outcome of a round whose token came through the refresh window, and
`Windowed` says what follows: the resource of such a round is valid only while its token lives, so a
look that finds it valid may serve it, and at the moment at which the round ends its token is alive.

A reader that waited for the round is answered at that moment, provided that time does not pass it
by.  `Prompt` is this assumption.  It asks nothing of a refresh, which may be answered late; the
token that it then installs may be dead, and is not served.
-/

namespace SingleFlight
namespace TokenCache

/-- The clock does not go back, and does not move while a reader has yet to take the outcome of the
round that it waited for. -/
def Prompt (env : Surroundings) (s : State) (env' : Surroundings) : Prop :=
  env.now ≤ env'.now ∧
    (env.now < env'.now → ∀ n key round,
      s.keyed.callers.get? (.caller n) = some (.awaiting key round) →
      s.keyed.outcome? round = none)

/-- What the keyed cache knows of tokens that came through the window. -/
structure Windowed (now : Nat) (k : Cache.State Agent ParameterSet Token) : Prop where
  coherent : Cache.Coherent k
  bounded : ∀ round r, k.outcome? round = some (.ok r) →
    ∃ due, r.validity = .expiresAt due ∧ due ≤ r.value.expiresAt
  /-- A reader that may be answered may be answered now. -/
  awaited : ∀ n key round r, k.callers.get? (.caller n) = some (.awaiting key round) →
    k.outcome? round = some (.ok r) → now < r.value.expiresAt

namespace Windowed

variable {cfg : Config} {env env' : Surroundings} {k k' : Cache.State Agent ParameterSet Token}
  {ke : Cache.Event Agent ParameterSet Token} {notes : List (Cache.Note Agent ParameterSet Token)}

theorem empty (now : Nat) : Windowed now .empty where
  coherent := .empty
  bounded round r h := by cases h
  awaited n key round r h := by cases h

theorem leave (h : Windowed env.now k) (a : Agent) : Windowed env.now (k.leave a) where
  coherent := h.coherent.leave a
  bounded := h.bounded
  awaited n key round r hc := h.awaited n key round r (Cache.State.get?_of_get?_leave hc).2

/-- An outcome that becomes known is that of a token which has just come through the window. -/
theorem arrived {describe : ParameterSet → String} {now : Nat}
    (t : Cache.Transition describe env k (arriving cfg now ke) env' k' notes) {round : Nat}
    {r : Resource Token} (ho : k'.outcome? round = some (.ok r)) :
    k.outcome? round = some (.ok r) ∨
      now < r.value.expiresAt ∧
        r.validity = .expiresAt (Token.refreshInstant now r.value.expiresAt cfg.lead) := by
  rcases t.outcome?_cases ho with before | ⟨known, ending, hfinish, -, houtcome⟩
  · exact .inl before
  · cases ke with
    | finish round' fetched =>
      obtain ⟨rfl, rfl⟩ : round' = round ∧ Token.windowed now cfg.lead fetched = ending := by
        simpa [arriving] using hfinish
      exact .inr (Token.windowed_outcome houtcome.symm)
    | look _ _ | decide _ | settle _ | drop _ => cases hfinish

theorem transition (h : Windowed env.now k)
    (t : Cache.Transition ParameterSet.text env k (arriving cfg env.now ke) env' k' notes) :
    Windowed env.now k' where
  coherent := t.coherent h.coherent
  bounded round r ho := by
    rcases arrived t ho with before | ⟨alive, hvalidity⟩
    · exact h.bounded round r before
    · exact ⟨_, hvalidity, Token.refreshInstant_le (Nat.le_of_lt alive)⟩
  awaited n key round r hc ho := by
    rcases arrived t ho with before | ⟨alive, -⟩
    · exact h.awaited n key round r (t.awaited_before h.coherent hc ho) before
    · exact alive

theorem answered (h : Windowed env.now k)
    (t : Cache.Transition ParameterSet.text env k (arriving cfg env.now ke) env' k' notes)
    {n round : Nat} {key : ParameterSet} {r : Resource Token}
    (ha : .answered (.caller n) key round (.ok r) ∈ notes) : env.now < r.value.expiresAt := by
  rcases t.answered ha with ⟨path, resource, hr, -, valid⟩ | ⟨-, awaits, ended⟩
  -- The resource is that of an earlier round, found valid now.
  · obtain rfl : r = resource := by simpa using hr
    obtain ⟨due, hvalidity, hdue⟩ := h.bounded round r (t.answered_ended h.coherent ha)
    rw [hvalidity, Validity.check_expiresAt] at valid
    omega
  · exact h.awaited n key round r awaits ended

end Windowed

variable {cfg : Config} {env env' : Surroundings} {s s' : State} {e : Event} {notes : List Note}
  {moves : List (Move State Event Note)}

theorem Transition.windowed (t : Transition cfg env s e env' s' notes)
    (h : Windowed env.now s.keyed) : Windowed env'.now s'.keyed := by
  rw [t.now]
  exact t.keyed_keeps h h.leave fun _ _ _ t => h.transition t

/-- Time may pass a refresh by, but no reader. -/
theorem Prompt.windowed (hw : Prompt env s env') (h : Windowed env.now s.keyed) :
    Windowed env'.now s.keyed where
  coherent := h.coherent
  bounded := h.bounded
  awaited n key round r hc ho := by
    obtain ⟨hle, waits⟩ := hw
    rcases Nat.eq_or_lt_of_le hle with same | later
    · rw [← same]
      exact h.awaited n key round r hc ho
    · rw [waits later n key round hc] at ho
      cases ho

theorem run_windowed (run : (system cfg Prompt).Run moves env s) : Windowed env.now s.keyed := by
  obtain ⟨env₀, path⟩ := run
  exact path.keeps (P := fun env s => Windowed env.now s.keyed) (fun h hw => Prompt.windowed hw h)
    (fun h hs => (step_transition hs).windowed h) (.empty env₀.now)

theorem Transition.answered_alive (t : Transition cfg env s e env' s' notes)
    (h : Windowed env.now s.keyed) {n : Nat} {token : Token}
    (ha : .answered n (.ok token) ∈ notes) : env.now < token.expiresAt := by
  rcases t.answered ha with ⟨held, usable, rfl⟩ | ⟨_, _, _, _, _, _, t, hanswer, rfl⟩
  · exact (State.usable?_eq_some_iff.1 usable).2
  · exact h.answered t hanswer

/-- No expired token is served.  Every token that a call of a run is answered with lives at the
instant of the answer, and so does, at any point of the run, the token that is read without a
call. -/
theorem served_unexpired (run : (system cfg Prompt).Run moves env s) :
    (∀ m ∈ moves, ∀ n token, .answered n (.ok token) ∈ m.notes →
      m.env.now < token.expiresAt) ∧
    ∀ token, s.current? env.now = some token → env.now < token.expiresAt := by
  constructor
  · intro m hm n token ha
    obtain ⟨_, _, _, -, first, hs, -⟩ := run.cut_of_mem hm
    exact (step_transition hs).answered_alive (run_windowed first) ha
  · intro token hcurrent
    obtain ⟨-, alive⟩ := Option.filter_eq_some_iff.1 hcurrent
    simpa [Token.isExpired] using alive

/-- A refresh is discarded because the timers were stopped, and once the first token has expired a
reader is answered with the token that the keyed cache kept from that refresh. -/
theorem served_unexpired_kept :
    ∃ cfg earlier m env s, (system cfg Prompt).Run (earlier ++ [m]) env s ∧
      (∃ m' ∈ earlier, .discarded 0 ∈ m'.notes) ∧
      .answered 2 (.ok ⟨"second", 300⟩) ∈ m.notes ∧ m.env.now = 100 ∧ m.env.now < 300 := by
  let cfg : Config :=
    { name := "token", parameters := .empty, lead := 10, backoff := { base := 1, limit := 8 } }
  have fetched : (system cfg Prompt).Path .start .start _ _ _ :=
    .of_replay [.enter 0 .get, .act (.caller 0), .keyed (.look (.caller 0) .empty),
      .keyed (.decide (.caller 0)),
      .keyed (.finish 0 (.returned (.ok (Token.toResource ⟨"first", 100⟩ 0)))),
      .keyed (.settle (.caller 0))] rfl
  have due := fetched.wait (show Prompt _ _ (Surroundings.start.pass 90) from
    ⟨by decide, fun _ n key round h => by cases h⟩)
  have discarded := due.trans (.of_replay [.fire 0, .keyed (.look (.refresh 0) .empty),
    .keyed (.decide (.refresh 0)), .enter 1 .stop, .act (.caller 1),
    .keyed (.finish 1 (.returned (.ok (Token.toResource ⟨"second", 300⟩ 1)))),
    .keyed (.settle (.refresh 0)), .act (.refresh 0)] rfl)
  have expired := discarded.wait (show Prompt _ _ (Surroundings.start.pass 100) from
    ⟨by decide, fun _ n key round h => by cases h⟩)
  have asked := expired.trans (.of_replay [.enter 2 .get, .act (.caller 2)] rfl)
  have served := asked.trans (.of_replay [.keyed (.look (.caller 2) .empty)] rfl)
  exact ⟨cfg, _, _, _, _, ⟨_, served⟩,
    ⟨_, List.mem_append_left _ (List.mem_append_right _
      (List.mem_of_getElem? (show _[7]? = some _ from rfl))), .head _⟩,
    .tail _ (.tail _ (.tail _ (.head _))), rfl,
    (served_unexpired ⟨_, served⟩).1 _ (List.mem_append_right _ (.head _)) 2 ⟨"second", 300⟩
      (.tail _ (.tail _ (.tail _ (.head _))))⟩

end TokenCache
end SingleFlight
