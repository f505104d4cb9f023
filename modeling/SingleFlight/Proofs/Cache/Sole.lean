import SingleFlight.Proofs.Cache.Course

/-!
One caller alone at the keyed cache.

Where all others at work have nothing to do but to settle rounds that have ended, no abandoned round
runs, and what is stored for the key is out of date, a request goes one way only (`Stride`): its
first look defers, its second starts a round, the round ends, and the caller settles it.  Every
stride leaves the caller alone as it was, unless the round has ended well and is settled; then its
resource is stored.
-/

namespace SingleFlight
namespace Cache

variable {ι κ α : Type} [DecidableEq ι] [DecidableEq κ]

/-- The table has the resource of the round for the key, or will have it once the round is
settled. -/
def State.Stored (s : State ι κ α) (key : κ) (n : Nat) (resource : Resource α) : Prop :=
  s.entries.get? key = some (.ready n resource) ∨
    s.entries.get? key = some (.inFlight n) ∧ s.outcome? n = some (.ok resource)

section Stored

variable {s : State ι κ α} {key : κ} {m n : Nat} {resource resource' : Resource α}

theorem State.Stored.outcome (h : s.Stored key n resource) (coherent : Coherent s) :
    s.outcome? n = some (.ok resource) := by
  rcases h with ready | ⟨-, ended⟩
  · obtain ⟨r, hr, -, ended⟩ := coherent.ready _ _ _ ready
    exact State.outcome?_eq_some_iff.2 ⟨r, hr, ended⟩
  · exact ended

omit [DecidableEq ι] in
/-- The table has one resource for a key. -/
theorem State.Stored.unique (h : s.Stored key n resource) (h' : s.Stored key m resource') :
    m = n ∧ resource' = resource := by
  rcases h with ready | ⟨inFlight, ended⟩ <;> rcases h' with ready' | ⟨inFlight', ended'⟩
  · simpa using ready'.symm.trans ready
  · cases ready.symm.trans inFlight'
  · cases inFlight.symm.trans ready'
  · obtain rfl : m = n := by simpa using inFlight'.symm.trans inFlight
    exact ⟨rfl, by simpa using ended'.symm.trans ended⟩

theorem State.Stored.not_running (h : s.Stored key n resource) (coherent : Coherent s) (m : Nat) :
    ¬ s.Running key m := by
  intro running
  have entry := coherent.running key m running
  rcases h with ready | ⟨inFlight, ended⟩
  · cases ready.symm.trans entry
  · exact coherent.not_running_of_ended inFlight ended m running

/-- Settling a round stores nothing that was not stored before. -/
theorem State.Stored.of_settled {c : ι} {o : Outcome (Resource α)} (ended : s.outcome? n = some o)
    (stored : { s.leave c with entries := State.settleEntry s.entries key n o }.Stored key m
      resource) : s.Stored key m resource := by
  by_cases entry : s.entries.get? key = some (.inFlight n)
  · cases o with
    | ok resource' =>
      have settled : (State.settleEntry s.entries key n (.ok resource')).get? key =
          some (.ready n resource') := by
        rw [State.settleEntry_ok entry, Table.get?_insert_self]
      rcases stored with ready | ⟨inFlight, -⟩
      · obtain ⟨rfl, rfl⟩ := by simpa using settled.symm.trans ready
        exact .inr ⟨entry, ended⟩
      · cases settled.symm.trans inFlight
    | error error =>
      have gone : (State.settleEntry s.entries key n (.error error)).get? key = none := by
        rw [State.settleEntry_error entry, Table.get?_erase_self]
      rcases stored with ready | ⟨inFlight, -⟩
      · cases gone.symm.trans ready
      · cases gone.symm.trans inFlight
  · rwa [State.Stored, State.settleEntry_eq_self entry] at stored

end Stored

/-- The caller waits for a round that has ended, and has nothing to do but to settle it. -/
def State.Settling (s : State ι κ α) (key : κ) (caller : ι) : Prop :=
  ∃ n o, s.callers.get? caller = some (.awaiting key n) ∧ s.outcome? n = some o

/-- From `due` on nothing serves the caller but a round that it waits for. -/
structure Unserved (s : State ι κ α) (caller : ι) (key : κ) (due : Nat) : Prop where
  running : ∀ n, s.Running key n → s.callers.get? caller = some (.awaiting key n)
  stale : ∀ n resource, s.Stored key n resource →
    s.callers.get? caller = some (.awaiting key n) ∨
      ∀ env : Surroundings, due ≤ env.now → (resource.validity.check env).1 = false

/-- Nothing serves the caller, and the others at work have all but settled. -/
structure Sole (s : State ι κ α) (caller : ι) (key : κ) (due : Nat) : Prop
    extends Unserved s caller key due where
  alone : ∀ c stage, s.callers.get? c = some stage →
    c = caller ∧ stage.key = key ∨ s.Settling key c

/-- How often the caller has looked.  At its second look a caller that is alone calls the source. -/
def State.looks (s : State ι κ α) (caller : ι) : Nat :=
  match s.callers.get? caller with
  | none => 0
  | some (.undecided _) => 1
  | some (.awaiting _ _) => 2

omit [DecidableEq κ] in
theorem State.looks_le (s : State ι κ α) (caller : ι) : s.looks caller ≤ 2 := by
  unfold State.looks
  split <;> omega

/-- The outcome that the caller has yet to take. -/
def State.untaken (s : State ι κ α) (caller : ι) : List (Outcome (Resource α)) :=
  match s.callers.get? caller with
  | some (.awaiting _ n) => (s.outcome? n).toList
  | _ => []

/-- What a step comes to where the caller is alone. -/
inductive Stride (describe : κ → String) (env : Surroundings) (s s' : State ι κ α) (caller : ι)
    (key : κ) : Event ι κ α → List (Note ι κ α) → Prop where
  | defers : s.callers.get? caller = none → s'.callers.get? caller = some (.undecided key) →
      Stride describe env s s' caller key (.look caller key) []
  | starts : s.callers.get? caller = some (.undecided key) →
      s'.callers.get? caller = some (.awaiting key s.started) →
      s'.rounds s.started = some { key := key, startedAt := env.now, outcome := none } →
      Stride describe env s s' caller key (.decide caller) [.missed key s.started]
  | ends {n round ending} : s.callers.get? caller = some (.awaiting key n) →
      s.rounds n = some round → round.outcome = none → s'.callers = s.callers →
      s'.rounds n = some { round with outcome := some (ending.outcome (describe key)) } →
      Stride describe env s s' caller key (.finish n ending)
        [.finished key n (env.now - round.startedAt) (ending.outcome (describe key))]
  | settles {n o} : s.callers.get? caller = some (.awaiting key n) → s.outcome? n = some o →
      s'.callers.get? caller = none →
      Stride describe env s s' caller key (.settle caller) [.answered caller key n o]
  /-- Somebody else settles its round. -/
  | others {c n o} : c ≠ caller → s'.callers.get? caller = s.callers.get? caller →
      s'.rounds = s.rounds →
      Stride describe env s s' caller key (.settle c) [.answered c key n o]

namespace Unserved

variable {s : State ι κ α} {caller : ι} {key : κ} {due n : Nat}

/-- While nobody is at work, it is anybody's. -/
theorem other (h : Unserved s caller key due) (nobody : s.callers.get? caller = none) (c : ι) :
    Unserved s c key due where
  running m hm := by
    have waits := h.running m hm
    rw [nobody] at waits
    cases waits
  stale m resource stored := by
    refine .inr ((h.stale m resource stored).resolve_left fun waits => ?_)
    rw [nobody] at waits
    cases waits

/-- Who looks finds nothing that serves it. -/
theorem stale_of_looks (h : Unserved s caller key due) {env : Surroundings} (late : due ≤ env.now)
    (idle : ∀ m, s.callers.get? caller ≠ some (.awaiting key m)) {resource : Resource α}
    (stored : s.Stored key n resource) : (resource.validity.check env).1 = false :=
  (h.stale n resource stored).resolve_left (idle n) env late

theorem defers (h : Unserved s caller key due) (free : s.callers.get? caller = none) :
    Unserved { s with callers := s.callers.insert caller (.undecided key) } caller key due where
  running m hm := by
    have waits := h.running m hm
    rw [free] at waits
    cases waits
  stale m resource stored := by
    refine .inr ((h.stale m resource stored).resolve_left fun waits => ?_)
    rw [free] at waits
    cases waits

theorem starts (h : Unserved s caller key due)
    (undecided : s.callers.get? caller = some (.undecided key)) (now : Nat) :
    Unserved (s.startRound now caller key) caller key due where
  running m hm := by
    obtain ⟨round, hround, hkey, unfinished⟩ := hm
    by_cases new : m = s.started
    · subst new
      exact Table.get?_insert_self _ _ _
    · have before : s.rounds m = some round := by
        rw [← hround]
        exact (Round.store_of_ne _ _ new).symm
      have waits := h.running m ⟨round, before, hkey, unfinished⟩
      rw [undecided] at waits
      cases waits
  -- The entry is that of the round that was started, which has no resource yet.
  stale m resource stored := by
    have entry : (s.startRound now caller key).entries.get? key = some (.inFlight s.started) :=
      Table.get?_insert_self _ _ _
    rcases stored with ready | ⟨inFlight, ended⟩
    · cases entry.symm.trans ready
    · obtain rfl : s.started = m := by simpa using entry.symm.trans inFlight
      simp [State.outcome?, State.startRound] at ended

theorem ends (h : Unserved s caller key due) {round : Round κ α}
    (waits : s.callers.get? caller = some (.awaiting key n)) (o : Outcome (Resource α)) :
    Unserved { s with rounds := Round.store s.rounds n { round with outcome := some o } } caller
      key due where
  running m hm := by
    obtain ⟨round', hround', hkey, unfinished⟩ := hm
    by_cases same : m = n
    · rw [same]
      exact waits
    · have before : s.rounds m = some round' := by
        rw [← hround']
        exact (Round.store_of_ne _ _ same).symm
      exact h.running m ⟨round', before, hkey, unfinished⟩
  stale m resource stored := by
    by_cases same : m = n
    · rw [same]
      exact .inl waits
    · refine h.stale m resource (stored.imp_right fun ⟨inFlight, ended⟩ => ⟨inFlight, ?_⟩)
      simpa [State.outcome?, Round.store_of_ne _ _ same] using ended

/-- A round that failed leaves nothing behind. -/
theorem fails (h : Unserved s caller key due) (coherent : Coherent s)
    (waits : s.callers.get? caller = some (.awaiting key n)) {error : ResourceError}
    (failed : s.outcome? n = some (.error error)) :
    Unserved { s.leave caller with entries := State.settleEntry s.entries key n (.error error) }
      caller key due where
  running m hm := by
    have awaited := h.running m hm
    obtain rfl : n = m := by simpa using waits.symm.trans awaited
    have unfinished := State.outcome?_of_isRunning (s := s) (State.Running.isRunning hm)
    rw [failed] at unfinished
    cases unfinished
  stale m resource stored := by
    have before := stored.of_settled failed
    refine .inr ((h.stale m resource before).resolve_left fun waits' => ?_)
    obtain rfl : n = m := by simpa using waits.symm.trans waits'
    cases failed.symm.trans (before.outcome coherent)

/-- What others settle was there before. -/
theorem others (h : Unserved s caller key due) {c : ι} (other : c ≠ caller)
    {o : Outcome (Resource α)} (ended : s.outcome? n = some o) :
    Unserved { s.leave c with entries := State.settleEntry s.entries key n o } caller key due where
  running m hm := (Table.get?_erase_of_ne other).trans (h.running m hm)
  stale m resource stored :=
    (h.stale m resource (stored.of_settled ended)).imp_left (Table.get?_erase_of_ne other).trans

end Unserved

namespace Sole

variable {describe : κ → String} {env env' : Surroundings} {s s' : State ι κ α}
  {e : Event ι κ α} {notes : List (Note ι κ α)} {caller : ι} {key : κ} {due n : Nat}

theorem other (h : Sole s caller key due) (nobody : s.callers.get? caller = none) (c : ι) :
    Sole s c key due := by
  refine ⟨h.toUnserved.other nobody c, fun c' stage hc => .inr ?_⟩
  refine (h.alone c' stage hc).resolve_left ?_
  rintro ⟨rfl, -⟩
  cases nobody.symm.trans hc

theorem undecided (h : Sole s caller key due) {c : ι} {k : κ}
    (there : s.callers.get? c = some (.undecided k)) : c = caller ∧ k = key := by
  refine (h.alone _ _ there).resolve_right ?_
  rintro ⟨n, o, awaits, -⟩
  cases there.symm.trans awaits

theorem looks_idle (h : Sole s caller key due)
    (own : ∀ c k, e = .look c k → s.callers.get? c = none → c = caller ∧ k = key)
    {c : ι} {k : κ} {path : Path} (looks : Looks s c k e path) :
    c = caller ∧ k = key ∧ ∀ m, s.callers.get? caller ≠ some (.awaiting key m) := by
  cases looks with
  | first free =>
    obtain ⟨rfl, rfl⟩ := own c k rfl free
    exact ⟨rfl, rfl, by simp [free]⟩
  | second undecided =>
    obtain ⟨rfl, rfl⟩ := h.undecided undecided
    exact ⟨rfl, rfl, by simp [undecided]⟩

/-- Nobody else gets to work but to settle. -/
theorem alone_after (h : Sole s caller key due) (t : Transition describe env s e env' s' notes)
    (coherent : Coherent s)
    (own : ∀ c k, e = .look c k → s.callers.get? c = none → c = caller ∧ k = key) (c : ι)
    (stage : Stage κ) (hc : s'.callers.get? c = some stage) :
    c = caller ∧ stage.key = key ∨ s'.Settling key c := by
  rcases t.at_work hc with before | ⟨_, looks, -⟩
  · refine (h.alone c stage before).imp_right ?_
    rintro ⟨n, o, awaits, ended⟩
    obtain rfl := Option.some.inj (before.symm.trans awaits)
    exact ⟨n, o, hc, t.outcome?_stays coherent ended⟩
  · obtain ⟨same, hkey, -⟩ := h.looks_idle own looks
    exact .inl ⟨same, hkey⟩

end Sole

variable {describe : κ → String} {env env' : Surroundings} {s s' : State ι κ α}
  {e : Event ι κ α} {notes : List (Note ι κ α)} {caller : ι} {key : κ} {due : Nat}

/-- Who has nothing to do but to settle stays so until it does. -/
theorem Transition.settling (t : Transition describe env s e env' s' notes) (coherent : Coherent s)
    (h : s.Settling key caller) (untold : ∀ key n o, .answered caller key n o ∉ notes)
    (stays : e ≠ .drop caller) : s'.Settling key caller := by
  obtain ⟨n, o, awaits, ended⟩ := h
  cases t.course awaits with
  | stays _ same _ => exact ⟨n, o, same, t.outcome?_stays coherent ended⟩
  | boards _ _ undecided _ _ _ => cases undecided
  | ends _ _ _ _ answers _ _ => exact absurd answers.told (untold _ _ _)
  | leaves drop _ _ => exact absurd drop stays

/-- Where the caller is alone every step is one of the strides, and it stays alone unless its round
ended well and is settled. -/
theorem Transition.stride (t : Transition describe env s e env' s' notes) (coherent : Coherent s)
    (h : Sole s caller key due) (late : due ≤ env.now)
    (own : ∀ c k, e = .look c k → s.callers.get? c = none → c = caller ∧ k = key)
    (stays : ∀ c, e ≠ .drop c) :
    Stride describe env s s' caller key e notes ∧
      (Sole s' caller key due ∨ ∃ n resource, notes = [.answered caller key n (.ok resource)]) := by
  have alone := h.alone_after t coherent own
  cases t with
  | hit looks entry valid =>
    obtain ⟨rfl, rfl, idle⟩ := h.looks_idle own looks
    rw [h.stale_of_looks late idle (.inl entry)] at valid
    cases valid
  | join looks entry running =>
    obtain ⟨rfl, rfl, idle⟩ := h.looks_idle own looks
    exact absurd (h.running _ ((coherent.inFlight _ _ entry).running running)) (idle _)
  | defer free _ _ =>
    obtain ⟨rfl, rfl⟩ := own _ _ rfl free
    exact ⟨.defers free (Table.get?_insert_self _ _ _), .inl ⟨h.defers free, alone⟩⟩
  | promote undecided entry ended valid =>
    obtain ⟨rfl, rfl, idle⟩ := h.looks_idle own (.second undecided)
    rw [h.stale_of_looks late idle (.inr ⟨entry, ended⟩)] at valid
    cases valid
  | miss undecided _ _ _ =>
    obtain ⟨rfl, rfl⟩ := h.undecided undecided
    exact ⟨.starts undecided (Table.get?_insert_self _ _ _) (Round.store_self _ _ _),
      .inl ⟨h.starts undecided _, alone⟩⟩
  | @finish n round ending hround unfinished awaited =>
    obtain ⟨c, k, waits⟩ := State.isAwaited_iff.1 awaited
    obtain ⟨rfl, hk⟩ := (h.alone c _ waits).resolve_right <| by
      rintro ⟨m, o, waits', ended⟩
      obtain ⟨-, rfl⟩ : k = key ∧ n = m := by simpa using waits.symm.trans waits'
      simp [State.outcome?, hround, unfinished] at ended
    obtain ⟨round', hround', hkey⟩ := coherent.awaited _ _ _ waits
    obtain rfl := Option.some.inj (hround.symm.trans hround')
    obtain rfl : k = key := hk
    subst hkey
    exact ⟨.ends waits hround unfinished rfl (Round.store_self _ _ _),
      .inl ⟨h.ends waits _, alone⟩⟩
  | @settle c k n o waits ended =>
    obtain rfl : k = key := by
      rcases h.alone _ _ waits with ⟨-, hk⟩ | ⟨m, _, waits', -⟩
      · exact hk
      · exact (by simpa using waits.symm.trans waits' : k = key ∧ n = m).1
    by_cases own : c = caller
    · subst own
      refine ⟨.settles waits ended (Table.get?_erase_self _ _), ?_⟩
      cases o with
      | ok resource => exact .inr ⟨n, resource, rfl⟩
      | error error => exact .inl ⟨h.fails coherent waits ended, alone⟩
    · exact ⟨.others own (Table.get?_erase_of_ne own) rfl, .inl ⟨h.others own ended, alone⟩⟩
  | drop _ => exact absurd rfl (stays _)

end Cache
end SingleFlight
