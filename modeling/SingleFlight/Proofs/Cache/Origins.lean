import SingleFlight.Proofs.Cache.Answers

/-!
Which round the entry of a key stems from.

A caller may settle its round at any later time: after others did, after a later round was started,
or after the key lost its entry.  The number of the round decides whether it still counts.

An entry gives way to one of the same round, to none, or to that of a round just started, which has
the greatest number (`Transition.entry_round`).  So a key that has come as far as some round
(`State.Reached`) never falls behind it, whoever settles what and when.
-/

namespace SingleFlight
namespace Cache

variable {ι κ α : Type} [DecidableEq ι] [DecidableEq κ]

namespace State

/-- The key has come as far as the round: no entry of an earlier round is left, and all rounds that
are still to start are later. -/
structure Reached (s : State ι κ α) (key : κ) (n : Nat) : Prop where
  started : n < s.started
  entry : ∀ slot, s.entries.get? key = some slot → n ≤ slot.round

omit [DecidableEq ι] in
theorem round_of_get?_settleEntry {entries : Table κ (Slot α)} {key key' : κ} {n : Nat}
    {o : Outcome (Resource α)} {slot : Slot α}
    (h : (settleEntry entries key n o).get? key' = some slot) :
    ∃ before, entries.get? key' = some before ∧ before.round = slot.round := by
  by_cases entry : entries.get? key = some (.inFlight n)
  · cases o with
    | ok resource =>
      rw [settleEntry_ok entry] at h
      rcases Table.get?_of_get?_insert h with ⟨rfl, rfl⟩ | ⟨-, before⟩
      · exact ⟨_, entry, rfl⟩
      · exact ⟨slot, before, rfl⟩
    | error e =>
      rw [settleEntry_error entry] at h
      exact ⟨slot, (Table.get?_of_get?_erase h).2, rfl⟩
  · rw [settleEntry_eq_self entry] at h
    exact ⟨slot, h, rfl⟩

end State

namespace Coherent

variable {s : State ι κ α} {key : κ} {n : Nat} {slot : Slot α}

theorem round_known (h : Coherent s) (entry : s.entries.get? key = some slot) :
    s.Known key slot.round := by
  cases slot with
  | ready n resource =>
    obtain ⟨r, hr, hkey, -⟩ := h.ready key n resource entry
    exact ⟨r, hr, hkey⟩
  | inFlight n => exact h.inFlight key n entry

theorem reached (h : Coherent s) (entry : s.entries.get? key = some slot) :
    s.Reached key slot.round := by
  obtain ⟨r, hr, -⟩ := h.round_known entry
  refine ⟨h.lt_started hr, fun slot' entry' => ?_⟩
  obtain rfl : slot = slot' := Option.some.inj (entry.symm.trans entry')
  exact Nat.le_refl _

end Coherent

/-! ## Steps -/

section Step

variable {describe : κ → String} {env env' : Surroundings} {s s' : State ι κ α}
  {e : Event ι κ α} {notes : List (Note ι κ α)} {key : κ} {n : Nat}

theorem Transition.started_le (t : Transition describe env s e env' s' notes) :
    s.started ≤ s'.started := by
  rcases t.called with ⟨-, same⟩ | ⟨-, next⟩ <;> omega

/-- An entry is of the round that the entry of the key was of, or of a round just started. -/
theorem Transition.entry_round (t : Transition describe env s e env' s' notes) {slot : Slot α}
    (entry : s'.entries.get? key = some slot) :
    (∃ before, s.entries.get? key = some before ∧ before.round = slot.round) ∨
      slot.round = s.started := by
  cases t with
  | hit _ _ _ | join _ _ _ | defer _ _ _ | finish _ _ _ | drop _ =>
    exact .inl ⟨slot, entry, rfl⟩
  | promote _ unsettled _ _ =>
    rcases Table.get?_of_get?_insert entry with ⟨rfl, rfl⟩ | ⟨-, before⟩
    · exact .inl ⟨_, unsettled, rfl⟩
    · exact .inl ⟨slot, before, rfl⟩
  | miss _ _ _ _ =>
    rcases Table.get?_of_get?_insert entry with ⟨-, rfl⟩ | ⟨-, before⟩
    · exact .inr rfl
    · exact .inl ⟨slot, before, rfl⟩
  | settle _ _ => exact .inl (State.round_of_get?_settleEntry entry)

theorem Transition.reached (t : Transition describe env s e env' s' notes)
    (h : s.Reached key n) : s'.Reached key n where
  started := Nat.lt_of_lt_of_le h.started t.started_le
  entry slot entry := by
    rcases t.entry_round entry with ⟨before, hbefore, same⟩ | new
    · rw [← same]
      exact h.entry before hbefore
    · have hlt := h.started
      omega

theorem Transition.boarded_reached (t : Transition describe env s e env' s' notes) (h : Coherent s)
    {caller : ι} (hc : s'.callers.get? caller = some (.awaiting key n)) :
    s.callers.get? caller = some (.awaiting key n) ∨ s'.Reached key n := by
  rcases t.at_work hc with same | ⟨path, looks, boards⟩
  · exact .inl same
  · right
    rcases boards key n rfl with ⟨-, entry⟩ | missed
    · exact t.reached (h.reached entry)
    · have coherent := t.coherent h
      have entry := coherent.running key n (t.missed h missed).2
      exact coherent.reached entry

/-- Once the key has come to a round that has ended, callers start to wait for later ones only. -/
theorem Transition.boarded_later (t : Transition describe env s e env' s' notes) {m : Nat}
    {o : Outcome (Resource α)} (reached : s.Reached key m) (ended : s.outcome? m = some o)
    {caller : ι} (hc : s'.callers.get? caller = some (.awaiting key n)) :
    s.callers.get? caller = some (.awaiting key n) ∨ m < n := by
  rcases t.at_work hc with same | ⟨path, looks, boards⟩
  · exact .inl same
  · right
    rcases boards key n rfl with ⟨running, entry⟩ | missed
    · have hle : m ≤ n := reached.entry _ entry
      have hne : m ≠ n := by
        rintro rfl
        rw [State.outcome?_of_isRunning running] at ended
        cases ended
      omega
    · have new := t.missed_started missed
      have hlt := reached.started
      omega

/-- Who is answered waited for the round, or the entry of the key is of the round and is found
valid. -/
theorem Transition.answered_from (t : Transition describe env s e env' s' notes) (h : Coherent s)
    {caller : ι} {o : Outcome (Resource α)} (ha : .answered caller key n o ∈ notes) :
    s.callers.get? caller = some (.awaiting key n) ∨
      ∃ slot resource, s.entries.get? key = some slot ∧ slot.round = n ∧
        s.outcome? n = some (.ok resource) ∧ (resource.validity.check env).1 = true := by
  cases t with
  | hit _ entry valid =>
    obtain ⟨-, rfl, rfl, -⟩ : _ ∧ key = _ ∧ n = _ ∧ o = _ := by simpa using ha
    obtain ⟨r, hr, -, ho⟩ := h.ready _ _ _ entry
    have ended := State.outcome?_eq_some_iff.2 ⟨r, hr, ho⟩
    exact .inr ⟨_, _, entry, rfl, ended, valid⟩
  | promote _ entry ended valid =>
    obtain ⟨-, rfl, rfl, -⟩ : _ ∧ key = _ ∧ n = _ ∧ o = _ := by simpa using ha
    exact .inr ⟨_, _, entry, rfl, ended, valid⟩
  | settle awaits _ =>
    obtain ⟨rfl, rfl, rfl, -⟩ : caller = _ ∧ key = _ ∧ n = _ ∧ o = _ := by simpa using ha
    exact .inl awaits
  | join _ _ _ | defer _ _ _ | miss _ _ _ _ | finish _ _ _ | drop _ => simp at ha

theorem Transition.answered_reached (t : Transition describe env s e env' s' notes)
    (h : Coherent s) {caller : ι} {o : Outcome (Resource α)}
    (ha : .answered caller key n o ∈ notes) :
    s.callers.get? caller = some (.awaiting key n) ∨ s.Reached key n := by
  rcases t.answered_from h ha with awaits | ⟨slot, _, entry, rfl, -⟩
  · exact .inl awaits
  · exact .inr (h.reached entry)

/-- Once the key has come to a round that ended well, an answer stems from a later round, or from
this one if its resource is found valid. -/
theorem Transition.answered_later (t : Transition describe env s e env' s' notes) (h : Coherent s)
    {m : Nat} {resource : Resource α} (reached : s.Reached key m)
    (ended : s.outcome? m = some (.ok resource)) {caller : ι} {o : Outcome (Resource α)}
    (ha : .answered caller key n o ∈ notes) :
    s.callers.get? caller = some (.awaiting key n) ∨ m < n ∨
      (resource.validity.check env).1 = true := by
  rcases t.answered_from h ha with awaits | ⟨slot, resource', entry, rfl, ended', valid⟩
  · exact .inl awaits
  · right
    rcases Nat.eq_or_lt_of_le (reached.entry slot entry) with same | later
    · rw [← same, ended] at ended'
      obtain rfl : resource = resource' := by simpa using ended'
      exact .inr valid
    · exact .inl later

/-- To settle a round changes the table only where the entry of the key is that round in flight. -/
theorem Transition.settled {caller : ι}
    (t : Transition describe env s (.settle caller) env' s' notes) :
    ∃ key n outcome, s.callers.get? caller = some (.awaiting key n) ∧
      s.outcome? n = some outcome ∧
      (s.entries.get? key = some (.inFlight n) →
        s'.entries = match outcome with
          | .ok resource => s.entries.insert key (.ready n resource)
          | .error _ => s.entries.erase key) ∧
      (s.entries.get? key ≠ some (.inFlight n) → s'.entries = s.entries) := by
  cases t with
  | hit looks _ _ | join looks _ _ => cases looks
  | @settle _ key n outcome awaits ended =>
    refine ⟨key, n, outcome, awaits, ended, fun entry => ?_, fun other => ?_⟩
    · cases outcome with
      | ok resource => exact State.settleEntry_ok entry
      | error e => exact State.settleEntry_error (e := e) entry
    · exact State.settleEntry_eq_self other

theorem Transition.look_answered (t : Transition describe env s e env' s' notes) (h : Coherent s)
    {caller c : ι} {key' : κ} {path : Path} {o : Outcome (Resource α)}
    (looks : Looks s caller key e path) (ha : .answered c key' n o ∈ notes) :
    ∃ resource, o = .ok resource ∧ s.outcome? n = some (.ok resource) := by
  cases t with
  | hit _ entry _ =>
    obtain ⟨-, -, rfl, rfl⟩ : _ ∧ _ ∧ n = _ ∧ o = _ := by simpa using ha
    obtain ⟨r, hr, -, ho⟩ := h.ready _ _ _ entry
    exact ⟨_, rfl, State.outcome?_eq_some_iff.2 ⟨r, hr, ho⟩⟩
  | promote _ _ ended _ =>
    obtain ⟨-, -, rfl, rfl⟩ : _ ∧ _ ∧ n = _ ∧ o = _ := by simpa using ha
    exact ⟨_, rfl, ended⟩
  | settle _ _ => cases looks
  | join _ _ _ | defer _ _ _ | miss _ _ _ _ | finish _ _ _ | drop _ => simp at ha

end Step

/-! ## Runs -/

section Run

variable {describe : κ → String} {world : Surroundings → State ι κ α → Surroundings → Prop}
  {moves : List (Move (State ι κ α) (Event ι κ α) (Note ι κ α))} {env env₀ : Surroundings}
  {s s₀ : State ι κ α}

theorem path_reached (path : (system describe world).Path env₀ s₀ moves env s) {key : κ} {n : Nat}
    (h : s₀.Reached key n) : s.Reached key n :=
  path.keeps (P := fun _ s => s.Reached key n) (fun h _ => h)
    (fun h hs => (step_transition hs).reached h) h

/-- Rounds do not clobber each other.  Once a key had an entry of some round it never has one of an
earlier round.  To settle a round changes the table only where the entry of the key is that round in
flight: then the entry becomes the round's resource, or goes if the round failed.  And an entry that
can be served is the resource of a round of the key that ended well, so no look is answered with a
failure. -/
theorem entry_rounds_advance (run : (system describe world).Run moves env s) :
    (∀ key slot, s.entries.get? key = some slot → ∀ later env' s',
      (system describe world).Path env s later env' s' →
      ∀ slot', s'.entries.get? key = some slot' → slot.round ≤ slot'.round) ∧
    (∀ m ∈ moves, ∀ caller, m.event = .settle caller → ∃ key n outcome,
      m.before.callers.get? caller = some (.awaiting key n) ∧
      m.before.outcome? n = some outcome ∧
      (m.before.entries.get? key = some (.inFlight n) →
        m.after.entries = match outcome with
          | .ok resource => m.before.entries.insert key (.ready n resource)
          | .error _ => m.before.entries.erase key) ∧
      (m.before.entries.get? key ≠ some (.inFlight n) → m.after.entries = m.before.entries)) ∧
    (∀ key n resource, s.entries.get? key = some (.ready n resource) →
      ∃ r, s.rounds n = some r ∧ r.key = key ∧ r.outcome = some (.ok resource)) ∧
    ∀ m ∈ moves, ∀ caller key path, Looks m.before caller key m.event path →
      ∀ c key' n outcome, .answered c key' n outcome ∈ m.notes →
        ∃ resource, outcome = .ok resource ∧ m.before.outcome? n = some (.ok resource) := by
  have coherent := run_coherent run
  refine ⟨?_, ?_, coherent.ready, ?_⟩
  · intro key slot entry later env' s' path slot' entry'
    exact (path_reached path (coherent.reached entry)).entry slot' entry'
  · intro m hm caller hsettle
    obtain ⟨_, _, _, -, first, hs, -⟩ := run.cut_of_mem hm
    have t := step_transition hs
    rw [hsettle] at t
    exact t.settled
  · intro m hm caller key path looks c key' n outcome ha
    obtain ⟨_, _, _, -, first, hs, -⟩ := run.cut_of_mem hm
    exact (step_transition hs).look_answered (run_coherent first) looks ha

end Run

/-- The first of two callers settles a round that failed.  The second comes to it when a later round
has been settled, and leaves the entry of that round as it is. -/
theorem entry_rounds_advance_late :
    ∃ earlier m env, ∃ s : State Nat Nat Nat, ∃ resource,
      (system (fun _ => "\x7b\x7d") fun _ _ _ => True).Run (earlier ++ [m]) env s ∧
      m.event = .settle 1 ∧
      m.before.outcome? 0 = some (.error (.fetch "\x7b\x7d" ["down"])) ∧
      m.before.entries.get? 7 = some (.ready 1 resource) ∧
      m.after.entries = m.before.entries := by
  let resource : Resource Nat :=
    { value := 5, object := 0, validity := .permanent, sensitive := false }
  have nine : (system (fun _ => "\x7b\x7d") fun _ _ _ => True : System (State Nat Nat Nat) _ _).Path
      .start .empty _ _ _ :=
    .of_replay [.look 0 7, .decide 0, .look 1 7,
      .finish 0 (.returned (.error (.plain "down"))), .settle 0, .look 2 7, .decide 2,
      .finish 1 (.returned (.ok resource)), .settle 2] rfl
  have late := nine.trans (.of_replay [.settle 1] rfl)
  refine ⟨_, _, _, _, resource, ⟨_, late⟩, rfl, rfl, rfl, ?_⟩
  obtain ⟨key, n, _, awaits, -, -, other⟩ :=
    (entry_rounds_advance ⟨_, late⟩).2.1 _ (List.mem_append_right _ (.head _)) 1 rfl
  have waits : some (Stage.awaiting 7 0) = some (.awaiting key n) := awaits
  cases waits
  exact other nofun

end Cache
end SingleFlight
