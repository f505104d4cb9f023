import SingleFlight.Proofs.TokenCache.Arming

/-!
Calls, and the tokens that are installed.

A call begins when a caller asks for the lock.  It ends when its caller acts, goes away, or is
answered by the keyed cache; only a reader that finds no token that lives goes on to fetch
(`CallStep`).

Two agents install tokens: a reader that the keyed cache has answered, and a refresh that has the
lock and whose timer still counts (`Brings`).  Either is done by then (`Transition.installing`).
-/

namespace SingleFlight
namespace TokenCache

open State

def Note.installed? : Note → Option Held
  | installed h => some h
  | _ => none

def installed (moves : List (Move State Event Note)) : List Held :=
  moves.flatMap fun m => m.notes.filterMap Note.installed?

/-- The agent has asked for the lock, and has not handed it on. -/
def State.Asks (s : State) : Agent → Prop
  | .caller n => ∃ stage, s.callers.get? n = some stage
  | .refresh t => ∃ round outcome, s.tasks.get? t = some (.returned round outcome)

/-- What a step does to the call of a caller. -/
inductive CallStep (now : Nat) (s s' : State) (e : Event) (n : Nat) : Prop where
  | stays : s'.callers.get? n = s.callers.get? n → CallStep now s s' e n
  | enters {wish} : s.callers.get? n = none → s'.callers.get? n = some (.queued wish) →
      CallStep now s s' e n
  | fetches : e = .act (.caller n) → s.Acts n .get → s.usable? now = none →
      s'.callers.get? n = some .fetching → CallStep now s s' e n
  | ends : s'.callers.get? n = none →
      e = .act (.caller n) ∨ e = .cancel n ∨ s.callers.get? n = some .fetching →
      CallStep now s s' e n

/-- The agent has the resource of the round, and it counts. -/
inductive Brings (cfg : Config) (env : Surroundings) (s : State) :
    Agent → Nat → Resource Token → Prop where
  | returned {t round r} : s.Returns t round (.ok r) → s.timer.map Timer.id = some t →
      Brings cfg env s (.refresh t) round r
  | answered {ke env' k known n key round r} : s.Permits cfg ke →
      Cache.Transition ParameterSet.text env s.keyed (arriving cfg env.now ke) env' k known →
      .answered (.caller n) key round (.ok r) ∈ known → Brings cfg env s (.caller n) round r

section Step

variable {cfg : Config} {env env' : Surroundings} {s s' : State} {e : Event} {notes : List Note}
  {n : Nat}

theorem CallStep.of_insert {now m : Nat} {stage : CallerStage}
    (callers : s'.callers = s.callers.insert m stage)
    (own : m = n → s'.callers.get? n = some stage → CallStep now s s' e n) :
    CallStep now s s' e n := by
  by_cases hm : m = n
  · refine own hm ?_
    rw [callers, hm, Table.get?_insert_self]
  · refine .stays ?_
    rw [callers, Table.get?_insert_of_ne hm]

theorem CallStep.of_erase {now m : Nat} (callers : s'.callers = s.callers.erase m)
    (own : m = n → e = .act (.caller n) ∨ e = .cancel n ∨ s.callers.get? n = some .fetching) :
    CallStep now s s' e n := by
  by_cases hm : m = n
  · refine .ends ?_ (own hm)
    rw [callers, hm, Table.get?_erase_self]
  · refine .stays ?_
    rw [callers, Table.get?_erase_of_ne hm]

theorem Transition.call (t : Transition cfg env s e env' s' notes) (orderly : Orderly s) (n : Nat) :
    CallStep env.now s s' e n := by
  cases t with
  | keyed _ _ _ | discard _ _ | giveUp _ _ _ | fire _ _ _ | quit _ _ | addHandle _
  | dropHandle _ => exact .stays rfl
  | returned _ _ _ =>
    rw [lock_eq]
    exact .stays rfl
  | refresh _ _ | retry _ _ _ _ _ =>
    refine .stays ?_
    simp only [retire, unlock, noteFailure, install_fst, arm_fst]
  | @enter m wish new _ =>
    rw [lock_eq]
    refine .of_insert (m := m) rfl fun hm there => ?_
    subst hm
    exact .enters new there
  | @fetch m acts unusable =>
    refine .of_insert (m := m) rfl fun hm there => ?_
    subst hm
    exact .fetches rfl acts unusable there
  | @serve m _ _ _ | @keep m _ _ | @idle m _ _ _ | @stop m _ =>
    exact .of_erase (m := m) rfl fun hm => .inl (by rw [hm])
  | @resume m _ _ _ _ =>
    refine .of_erase (m := m) ?_ fun hm => .inl (by rw [hm])
    simp only [leave, unlock, arm_fst]
  | @fetched _ _ _ _ m _ _ _ permits t ha =>
    refine .of_erase (m := m) ?_ fun hm => .inr (.inr ?_)
    · simp only [leave, unlock, install_fst, arm_fst]
    · rw [← hm]
      exact mayRequest_caller.1 (orderly.answered permits t ha)
  | @failed _ _ _ _ m _ _ _ permits t ha =>
    refine .of_erase (m := m) rfl fun hm => .inr (.inr ?_)
    rw [← hm]
    exact mayRequest_caller.1 (orderly.answered permits t ha)
  | @cancel m _ _ =>
    rw [cancel_eq]
    exact .of_erase (m := m) rfl fun hm => .inr (.inl (by rw [hm]))

theorem Transition.fetching_from (t : Transition cfg env s e env' s' notes) (orderly : Orderly s)
    (hn : s'.callers.get? n = some .fetching) :
    s.callers.get? n = some .fetching ∨
      e = .act (.caller n) ∧ s.Acts n .get ∧ s.usable? env.now = none := by
  cases t.call orderly n with
  | stays same => exact .inl (same.symm.trans hn)
  | enters _ there => cases there.symm.trans hn
  | fetches own acts unusable _ => exact .inr ⟨own, acts, unusable⟩
  | ends gone _ => cases gone.symm.trans hn

/-- A caller in line wants what it wanted until it acts or goes away. -/
theorem Transition.queued (t : Transition cfg env s e env' s' notes) (orderly : Orderly s)
    {wish : Wish} (hn : s.callers.get? n = some (.queued wish)) :
    e = .act (.caller n) ∨ e = .cancel n ∨ s'.callers.get? n = some (.queued wish) := by
  cases t.call orderly n with
  | stays same => exact .inr (.inr (same.trans hn))
  | enters new _ => cases new.symm.trans hn
  | fetches own _ _ _ => exact .inl own
  | ends _ reason =>
    rcases reason with own | gone | fetching
    · exact .inl own
    · exact .inr (.inl gone)
    · cases fetching.symm.trans hn

/-- The held token stays, or somebody who is done installs another one. -/
theorem Transition.installing (t : Transition cfg env s e env' s' notes) :
    (s'.held = s.held ∧ notes.filterMap Note.installed? = []) ∨
      ∃ a round r, Brings cfg env s a round r ∧ ¬ s'.Asks a ∧
        s'.held = some (heldOf round r) ∧
        notes.filterMap Note.installed? = [heldOf round r] := by
  cases t with
  | serve _ _ | keep _ _ | idle _ _ _ | stop _ | discard _ _ | giveUp _ _ _ | fire _ _ _
  | quit _ _ | addHandle _ | dropHandle _ => exact .inl ⟨rfl, rfl⟩
  | enter _ _ =>
    rw [lock_eq]
    exact .inl ⟨rfl, rfl⟩
  | cancel _ =>
    rw [cancel_eq]
    exact .inl ⟨rfl, rfl⟩
  | fetch _ _ =>
    refine .inl ⟨rfl, ?_⟩
    split <;> rfl
  | resume _ _ _ =>
    refine .inl ⟨?_, ?_⟩
    · simp only [leave, unlock, arm_fst]
    · rw [List.filterMap_append, filterMap_arm fun _ _ => rfl]
      rfl
  | @retry _ _ error _ _ _ _ _ _ _ =>
    refine .inl ⟨?_, filterMap_arm (fun _ _ => rfl) (s.noteFailure error) _ _⟩
    simp only [retire, unlock, arm_fst, noteFailure]
  | keyed _ _ _ => exact .inl ⟨rfl, filterMap_keyed (fun _ => rfl) _⟩
  | failed _ _ _ =>
    refine .inl ⟨rfl, ?_⟩
    rw [List.filterMap_append, filterMap_keyed fun _ => rfl]
    rfl
  | returned _ _ _ =>
    rw [lock_eq]
    exact .inl ⟨rfl, filterMap_keyed (fun _ => rfl) _⟩
  | @refresh t round r returns counts =>
    refine .inr ⟨.refresh t, round, r, .returned returns counts, ?_, ?_, ?_⟩
    · rintro ⟨_, _, there⟩
      exact (Table.get?_of_get?_erase there).1 rfl
    · simp only [retire, unlock, install_fst, arm_fst]
    · rw [install_snd]
      exact congrArg (heldOf round r :: ·) (filterMap_arm (fun _ _ => rfl) _ _ _)
  | @fetched _ _ _ _ m _ round r permits t ha =>
    refine .inr ⟨.caller m, round, r, .answered permits t ha, ?_, ?_, ?_⟩
    · rintro ⟨_, there⟩
      exact (Table.get?_of_get?_erase there).1 rfl
    · simp only [leave, unlock, install_fst, arm_fst]
    · rw [List.filterMap_append, filterMap_keyed fun _ => rfl, install_snd,
        List.nil_append, List.filterMap_append]
      exact congrArg (heldOf round r :: ·) (by rw [filterMap_arm fun _ _ => rfl]; rfl)

end Step

end TokenCache
end SingleFlight
