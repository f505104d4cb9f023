import SingleFlight.Proofs.Cache.Kept
import SingleFlight.Proofs.TokenCache.Ledger

/-!
The attempts to replace a held token.

`Attempts` keeps of a path when refreshes began and failed that count, when the source was called,
and how long its fetches took, each in order.  Every move adds to it what `Attempts.after` says.

A `Schedule` is what these times should be while the attempts fail: the first begins at the first
tick from the instant at which the token is due, each ends when its fetch has taken its time, and
each further one begins at the first tick from the end of the wait after the one before.  It is kept
as the attempts begin, call the source, and fail one after another.
-/

namespace SingleFlight

/-- From the bound on no failure is told from another, and neither are the waits. -/
theorem Backoff.delay_min (b : Backoff) (n : Nat) :
    b.delay (min n TokenCache.failureBound) = b.delay n := by
  have same : doublings (min n TokenCache.failureBound) = doublings n := by
    unfold doublings TokenCache.failureBound
    omega
  rw [delay, delay, millis, millis, same]

namespace TokenCache

open State

/-- How long a fetch took, if a note tells that one has ended. -/
def Note.took? : Note → Option Nat
  | keyed note => note.took?
  | _ => none

/-- When refreshes began whose timer is the timer of the cache, when the source was called, how long
the fetches took that have ended, and when refreshes failed that count. -/
structure Attempts where
  begun : List Nat
  called : List Nat
  took : List Nat
  ended : List Nat

/-- The attempts on a path. -/
def attempts (moves : List (Move State Event Note)) : Attempts where
  begun := (moves.filter begins).map fun m => m.env.now
  called := moves.flatMap fun m => (m.notes.filter Note.isMiss).map fun _ => m.env.now
  took := moves.flatMap fun m => m.notes.filterMap Note.took?
  ended := (moves.filter fun m => (failure? m).isSome).map fun m => m.env.now

namespace Attempts

/-- The attempts after one more move. -/
def after (l : Attempts) (m : Move State Event Note) : Attempts where
  begun := l.begun ++ if begins m then [m.env.now] else []
  called := l.called ++ (m.notes.filter Note.isMiss).map fun _ => m.env.now
  took := l.took ++ m.notes.filterMap Note.took?
  ended := l.ended ++ if (failure? m).isSome then [m.env.now] else []

/-- The instant from which the next attempt is due. -/
def due (l : Attempts) (cfg : Config) (h : Held) : Nat :=
  match l.ended.getLast? with
  | none => h.refreshAt
  | some c => Instant.after c (cfg.backoff.delay l.ended.length)

/-- All attempts that have begun have ended. -/
structure Level (l : Attempts) : Prop where
  begun : l.begun.length = l.ended.length
  called : l.called.length = l.ended.length
  took : l.took.length = l.ended.length

/-- The last attempt, which began at `b`, is under way.  How often it has called the source, and how
many of its fetches have ended, are numbers that are zero or one. -/
structure UnderWay (l : Attempts) (b calls fetches : Nat) : Prop where
  begun : l.begun.length = l.ended.length + 1
  last : l.begun.getLast? = some b
  called : l.called.length = l.ended.length + calls
  took : l.took.length = l.ended.length + fetches

/-- The fetch of the last attempt ended at `now`, and the attempt should end with it. -/
def Fetched (l : Attempts) (now : Nat) : Prop :=
  ∃ b d : Nat, l.UnderWay b 1 1 ∧ l.took.getLast? = some d ∧ now = b + d

end Attempts

/-- The attempts on a token that was installed at `since` are made in time. -/
structure Schedule (cfg : Config) (since : Nat) (h : Held) (l : Attempts) : Prop where
  first : ∀ b, l.begun[0]? = some b → b = max since (Instant.tick h.refreshAt)
  next : ∀ k b : Nat, l.begun[k + 1]? = some b → ∃ c, l.ended[k]? = some c ∧ c < h.token.expiresAt ∧
    b = Instant.tick (Instant.after c (cfg.backoff.delay (k + 1)))
  ends : ∀ k c : Nat, l.ended[k]? = some c → since ≤ c ∧
    ∃ b d, l.begun[k]? = some b ∧ l.took[k]? = some d ∧ c = b + d
  calls : ∀ k b : Nat, l.called[k]? = some b → l.begun[k]? = some b

section Attempts

variable {cfg : Config} {env : Surroundings} {s s' : State} {notes : List Note}
  {since b d now : Nat} {h : Held} {l : Attempts}

theorem attempts_concat (moves : List (Move State Event Note)) (m : Move State Event Note) :
    attempts (moves ++ [m]) = (attempts moves).after m := by
  have begun : [m].filter begins = if begins m then [m] else [] := by
    cases h : begins m <;> simp [h]
  have ended : ([m].filter fun m => (failure? m).isSome) =
      if (failure? m).isSome then [m] else [] := by
    cases h : (failure? m).isSome <;> simp [h]
  simp only [attempts, Attempts.after, List.filter_append, List.map_append, List.flatMap_append,
    List.flatMap_singleton, begun, ended]
  congr 2 <;> split <;> rfl

/-- A move that neither begins nor ends anything is not among the attempts. -/
theorem Attempts.after_silent (l : Attempts) {m : Move State Event Note} (begun : begins m = false)
    (called : m.notes.filter Note.isMiss = []) (took : m.notes.filterMap Note.took? = [])
    (ended : failure? m = none) : l.after m = l := by
  simp [after, begun, called, took, ended]

/-- A refresh fails that counts. -/
theorem Attempts.after_failed (l : Attempts) {t round : Nat} {error : ResourceError}
    (returns : s.Returns t round (.error error)) (counts : s.timer.map Timer.id = some t)
    (called : notes.filter Note.isMiss = []) (took : notes.filterMap Note.took? = []) :
    l.after ⟨env, s, .act (.refresh t), notes, s'⟩ = { l with ended := l.ended ++ [env.now] } := by
  simp [after, begins, failure?_of_error returns, counts, called, took]

/-- The source is called. -/
theorem Attempts.after_called (l : Attempts) (ke : Cache.Event Agent ParameterSet Token)
    (key : ParameterSet) (n : Nat) :
    l.after ⟨env, s, .keyed ke, [Cache.Note.missed key n].map .keyed, s'⟩ =
      { l with called := l.called ++ [env.now] } := by
  simp [after, begins, failure?, List.filter_cons, Note.isMiss, Note.took?, Cache.Note.took?]

/-- A fetch ends. -/
theorem Attempts.after_took (l : Attempts) (ke : Cache.Event Agent ParameterSet Token)
    (key : ParameterSet) (n elapsed : Nat) (outcome : Outcome (Resource Token)) :
    l.after ⟨env, s, .keyed ke, [Cache.Note.finished key n elapsed outcome].map .keyed, s'⟩ =
      { l with took := l.took ++ [elapsed] } := by
  simp [after, begins, failure?, Note.isMiss, Note.took?, Cache.Note.took?]

theorem getElem?_concat {β : Type} {l : List β} {x y : β} {i : Nat}
    (h : (l ++ [x])[i]? = some y) : l[i]? = some y ∨ i = l.length ∧ x = y := by
  rcases Nat.lt_or_ge i l.length with inside | outside
  · rw [List.getElem?_append_left inside] at h
    exact .inl h
  · rw [List.getElem?_append_right outside] at h
    obtain ⟨at_end, rfl⟩ := List.getElem?_eq_some_iff.1 h
    rw [List.length_singleton] at at_end
    exact .inr ⟨by omega, by simp⟩

theorem getElem?_concat_of_some {β : Type} {l : List β} {x y : β} {i : Nat} (h : l[i]? = some y) :
    (l ++ [x])[i]? = some y := by
  obtain ⟨inside, -⟩ := List.getElem?_eq_some_iff.1 h
  rw [List.getElem?_append_left inside, h]

namespace Schedule

theorem start (cfg : Config) (since : Nat) (h : Held) : Schedule cfg since h (attempts []) :=
  ⟨nofun, nofun, nofun, nofun⟩

/-- The next attempt begins when it is due. -/
theorem begins (schedule : Schedule cfg since h l) (level : l.Level)
    (alive : ∀ c, l.ended.getLast? = some c → c < h.token.expiresAt)
    (on_time : b = max since (Instant.tick (l.due cfg h))) :
    Schedule cfg since h { l with begun := l.begun ++ [b] } where
  first b' hb := by
    rcases getElem?_concat hb with before | ⟨at_end, rfl⟩
    · exact schedule.first b' before
    · have none_ended : l.ended = [] :=
        List.length_eq_zero_iff.1 (level.begun.symm.trans at_end.symm)
      rw [on_time, Attempts.due, none_ended]
      rfl
  next k b' hb := by
    rcases getElem?_concat hb with before | ⟨at_end, rfl⟩
    · exact schedule.next k b' before
    · have count : l.ended.length = k + 1 := level.begun.symm.trans at_end.symm
      have last : l.ended.getLast? = l.ended[k]? := by
        rw [List.getLast?_eq_getElem?, count, Nat.add_sub_cancel]
      cases hc : l.ended[k]? with
      | none =>
        have short := List.getElem?_eq_none_iff.1 hc
        omega
      | some c =>
        have ended := last.trans hc
        have from_since := (schedule.ends k c hc).1
        have waits := Instant.le_after c (cfg.backoff.delay (k + 1))
        have ticks := Instant.le_tick (Instant.after c (cfg.backoff.delay (k + 1)))
        refine ⟨c, rfl, alive c ended, ?_⟩
        rw [on_time, Attempts.due, ended, count]
        dsimp only
        omega
  ends k c hc := by
    obtain ⟨from_since, b', d, begun, took, sum⟩ := schedule.ends k c hc
    exact ⟨from_since, b', d, getElem?_concat_of_some begun, took, sum⟩
  calls k b' hb := getElem?_concat_of_some (schedule.calls k b' hb)

/-- The attempt calls the source as it begins. -/
theorem call (schedule : Schedule cfg since h l) (way : l.UnderWay b 0 0) :
    Schedule cfg since h { l with called := l.called ++ [b] } := by
  refine { schedule with calls := fun k b' hb => ?_ }
  rcases getElem?_concat hb with before | ⟨rfl, rfl⟩
  · exact schedule.calls k b' before
  · have last := way.last
    rw [List.getLast?_eq_getElem?, way.begun, Nat.add_sub_cancel] at last
    rw [way.called, Nat.add_zero]
    exact last

theorem take (schedule : Schedule cfg since h l) (d : Nat) :
    Schedule cfg since h { l with took := l.took ++ [d] } := by
  refine { schedule with ends := fun k c hc => ?_ }
  obtain ⟨from_since, b, d', begun, took, sum⟩ := schedule.ends k c hc
  exact ⟨from_since, b, d', begun, getElem?_concat_of_some took, sum⟩

/-- The attempt fails when its fetch has ended. -/
theorem fail (schedule : Schedule cfg since h l) (fetched : l.Fetched now) (later : since ≤ now) :
    Schedule cfg since h { l with ended := l.ended ++ [now] } := by
  obtain ⟨b, d, way, took, sum⟩ := fetched
  refine { schedule with next := fun k b' hb => ?_, ends := fun k c hc => ?_ }
  · obtain ⟨c, ended, rest⟩ := schedule.next k b' hb
    exact ⟨c, getElem?_concat_of_some ended, rest⟩
  · rcases getElem?_concat hc with before | ⟨rfl, rfl⟩
    · exact schedule.ends k c before
    · have last := way.last
      rw [List.getLast?_eq_getElem?, way.begun, Nat.add_sub_cancel] at last
      rw [List.getLast?_eq_getElem?, way.took, Nat.add_sub_cancel] at took
      exact ⟨later, b, d, last, took, sum⟩

end Schedule

theorem Attempts.Fetched.level (fetched : l.Fetched now) :
    ({ l with ended := l.ended ++ [now] } : Attempts).Level := by
  obtain ⟨b, d, way, -, -⟩ := fetched
  have begun := way.begun
  have called := way.called
  have took := way.took
  constructor <;> simp only [List.length_append, List.length_singleton] <;> omega

theorem Attempts.Level.calls (level : l.Level) :
    l.ended.length ≤ l.called.length ∧ l.called.length ≤ l.begun.length := by
  rw [level.begun, level.called]
  exact ⟨Nat.le_refl _, Nat.le_refl _⟩

theorem Attempts.UnderWay.calls {calls fetches : Nat} (way : l.UnderWay b calls fetches)
    (once : calls ≤ 1) :
    l.ended.length ≤ l.called.length ∧ l.called.length ≤ l.begun.length := by
  rw [way.begun, way.called]
  omega

theorem Attempts.Fetched.begun (fetched : l.Fetched now) :
    l.begun.length = l.ended.length + 1 := by
  obtain ⟨_, _, way, -, -⟩ := fetched
  exact way.begun

theorem Attempts.Fetched.calls (fetched : l.Fetched now) :
    l.ended.length ≤ l.called.length ∧ l.called.length ≤ l.begun.length := by
  obtain ⟨_, _, way, -, -⟩ := fetched
  exact way.calls (Nat.le_refl _)

theorem Attempts.Level.begin (level : l.Level) (b : Nat) :
    ({ l with begun := l.begun ++ [b] } : Attempts).UnderWay b 0 0 where
  begun := by rw [List.length_append, level.begun, List.length_singleton]
  last := List.getLast?_concat
  called := level.called
  took := level.took

theorem Attempts.UnderWay.call (way : l.UnderWay b 0 0) (at' : Nat) :
    ({ l with called := l.called ++ [at'] } : Attempts).UnderWay b 1 0 :=
  { way with called := by rw [List.length_append, way.called, List.length_singleton] }

theorem Attempts.UnderWay.fetched (way : l.UnderWay b 1 0) (d : Nat) :
    ({ l with took := l.took ++ [d] } : Attempts).Fetched (b + d) :=
  ⟨b, d, { way with took := by rw [List.length_append, way.took, List.length_singleton] },
    List.getLast?_concat, rfl⟩

end Attempts

end TokenCache
end SingleFlight
