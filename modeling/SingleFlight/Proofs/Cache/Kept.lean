import SingleFlight.Proofs.Cache.Sole

/-!
Resources that the table keeps.

The resource of a round gets into the table when its fetch ends, and stays there for as long as it
is valid: an entry is replaced only if nobody could be served from it (`Transition.stored`).  As
long as the table has a valid resource for a key, no fetch of the key is called and none ends
(`Transition.idles`).
-/

namespace SingleFlight
namespace Cache

variable {ι κ α : Type} [DecidableEq ι] [DecidableEq κ]

/-- How long a fetch took, if a note tells that one has ended. -/
def Note.took? : Note ι κ α → Option Nat
  | finished _ _ elapsed _ => some elapsed
  | _ => none

section Stored

variable {s : State ι κ α} {key : κ} {m n : Nat} {resource resource' : Resource α}

omit [DecidableEq ι] in
/-- Whoever finds nothing valid has looked for another key. -/
theorem Idle.other {env : Surroundings} {key' : κ} (idle : Idle env s key')
    (unpromoted : ∀ n r, s.entries.get? key' = some (.inFlight n) → s.outcome? n = some (.ok r) →
      (r.validity.check env).1 = false)
    (stored : s.Stored key n resource) (valid : (resource.validity.check env).1 = true) :
    key' ≠ key := by
  rintro rfl
  rcases stored with ready | ⟨inFlight, ended⟩
  · rw [idle.stale n resource ready] at valid
    cases valid
  · rw [unpromoted n resource inFlight ended] at valid
    cases valid

end Stored

section Step

variable {describe : κ → String} {env env' : Surroundings} {s s' : State ι κ α}
  {e : Event ι κ α} {notes : List (Note ι κ α)} {key : κ} {n : Nat} {resource : Resource α}

/-- A resource stays in the table while it is valid. -/
theorem Transition.stored (t : Transition describe env s e env' s' notes) (coherent : Coherent s)
    (h : s.Stored key n resource) (valid : (resource.validity.check env).1 = true) :
    s'.Stored key n resource := by
  have ended := t.outcome?_stays coherent (h.outcome coherent)
  -- What is left to show is that the entry stays, or gives way to one of the same round.
  have entry : s'.entries.get? key = s.entries.get? key ∨
      s'.entries.get? key = some (.ready n resource) := by
    cases t with
    | hit _ _ _ | join _ _ _ | defer _ _ _ | finish _ _ _ | drop _ => exact .inl rfl
    | @promote _ key' n' resource' _ inFlight ended' _ =>
      by_cases same : key' = key
      · subst same
        obtain ⟨rfl, rfl⟩ := h.unique (.inr ⟨inFlight, ended'⟩)
        exact .inr (Table.get?_insert_self _ _ _)
      · exact .inl (Table.get?_insert_of_ne same)
    | miss _ idle unpromoted _ =>
      exact .inl (Table.get?_insert_of_ne (idle.other unpromoted h valid))
    | @settle _ key' n' o _ ended' =>
      by_cases same : key' = key
      · subst same
        by_cases inFlight : s.entries.get? key' = some (.inFlight n')
        · have outcome := h.outcome coherent
          rcases h with ready | ⟨inFlight', -⟩
          · cases ready.symm.trans inFlight
          · obtain rfl : n = n' := by simpa using inFlight'.symm.trans inFlight
            obtain rfl := Option.some.inj (ended'.symm.trans outcome)
            refine .inr ?_
            rw [State.settleEntry_ok inFlight, Table.get?_insert_self]
        · exact .inl (congrArg (Table.get? · key') (State.settleEntry_eq_self inFlight))
      · exact .inl (State.get?_settleEntry_of_ne same)
  rcases entry with same | ready
  · rcases h with before | ⟨inFlight, -⟩
    · exact .inl (same.trans before)
    · exact .inr ⟨same.trans inFlight, ended⟩
  · exact .inl ready

/-- A resource is in the table as soon as its fetch has ended. -/
theorem Transition.arrives_stored (t : Transition describe env s e env' s' notes)
    (coherent : Coherent s) {r : Round κ α} (hr : s.rounds n = some r)
    (unfinished : r.outcome = none) (ended : s'.outcome? n = some (.ok resource)) :
    s'.Stored r.key n resource := by
  have running : s.Running r.key n := ⟨r, hr, rfl, unfinished⟩
  exact .inr ⟨(t.entry_of_running coherent running).trans (coherent.running _ _ running), ended⟩

/-- While a valid resource is in the table for the only key that anybody asks for, no fetch is
called and none ends. -/
theorem Transition.idles (t : Transition describe env s e env' s' notes) (coherent : Coherent s)
    (h : s.Stored key n resource) (valid : (resource.validity.check env).1 = true)
    (keys : ∀ c stage, s.callers.get? c = some stage → stage.key = key) :
    notes.filterMap Note.called? = [] ∧ notes.filterMap Note.took? = [] := by
  cases t with
  | hit _ _ _ | join _ _ _ | defer _ _ _ | promote _ _ _ _ | settle _ _ | drop _ =>
    exact ⟨rfl, rfl⟩
  | miss undecided idle unpromoted _ =>
    exact absurd (keys _ _ undecided) (idle.other unpromoted h valid)
  | finish hr unfinished awaited =>
    obtain ⟨c, key', waits⟩ := State.isAwaited_iff.1 awaited
    obtain rfl : key' = key := keys c _ waits
    obtain ⟨r', hr', hkey⟩ := coherent.awaited _ _ _ waits
    obtain rfl := Option.some.inj (hr.symm.trans hr')
    exact absurd ⟨_, hr, hkey, unfinished⟩ (h.not_running coherent _)

end Step

end Cache
end SingleFlight
