import Mathlib.Data.Nat.Count
import SingleFlight.Proofs.Cache.Answers

/-!
Keys do not disturb each other.

Callers and rounds of all keys share one table and one count of rounds.  Even so, what happens for
one key does not depend on the others.  Leave out every step of the other keys, number the rounds of
the key anew (`State.ordinal`), and what is left is a run again, with the same answers at the same
instants: `keys_isolated`.

`Projects` relates a state to the one in which only the key was ever used.  A step for another key
leaves that state as it is (`Transition.elsewhere`), and a step for the key is taken there too,
under the new number of its round (`Projects.step`).
-/

namespace SingleFlight
namespace Cache

variable {ι κ α : Type}

/-! ## Renumbering -/

def Slot.renumber (f : Nat → Nat) : Slot α → Slot α
  | ready n resource => ready (f n) resource
  | inFlight n => inFlight (f n)

def Stage.renumber (f : Nat → Nat) : Stage κ → Stage κ
  | undecided key => undecided key
  | awaiting key n => awaiting key (f n)

def Event.renumber (f : Nat → Nat) : Event ι κ α → Event ι κ α
  | finish n ending => finish (f n) ending
  | e => e

def Note.renumber (f : Nat → Nat) : Note ι κ α → Note ι κ α
  | hit key path => hit key path
  | joined key n path => joined key (f n) path
  | missed key n => missed key (f n)
  | finished key n elapsed outcome => finished key (f n) elapsed outcome
  | answered caller key n outcome => answered caller key (f n) outcome

section Ordinal

variable [DecidableEq κ]

instance (s : State ι κ α) (key : κ) : DecidablePred (s.Known key) := fun n =>
  decidable_of_iff ((s.rounds n).any (·.key = key) = true) (by
    cases h : s.rounds n <;> simp [State.Known, h])

/-- The number of rounds of the key before this one. -/
def State.ordinal (s : State ι κ α) (key : κ) (n : Nat) : Nat := Nat.count (s.Known key) n

variable {s : State ι κ α} {key : κ} {m n : Nat}

theorem State.ordinal_lt (hm : s.Known key m) (hlt : m < n) : s.ordinal key m < s.ordinal key n :=
  Nat.count_strict_mono hm hlt

theorem State.ordinal_injective (hm : s.Known key m) (hn : s.Known key n)
    (h : s.ordinal key m = s.ordinal key n) : m = n :=
  Nat.count_injective hm hn h

theorem State.ordinal_succ_of_known (hn : s.Known key n) :
    s.ordinal key (n + 1) = s.ordinal key n + 1 := by
  rw [State.ordinal, Nat.count_succ, if_pos hn, State.ordinal]

theorem State.ordinal_succ_of_not_known (hn : ¬ s.Known key n) :
    s.ordinal key (n + 1) = s.ordinal key n := by
  rw [State.ordinal, Nat.count_succ, if_neg hn, Nat.add_zero, State.ordinal]

end Ordinal

/-! ## The state of one key -/

/-- What is known of rounds in the first state is known in the second, where it may be more. -/
def State.Precedes (s last : State ι κ α) : Prop :=
  ∀ n r, s.rounds n = some r → ∃ r', last.rounds n = some r' ∧ r'.key = r.key

theorem State.Precedes.known {s last : State ι κ α} (h : s.Precedes last) {key : κ} {n : Nat}
    (hn : s.Known key n) : last.Known key n := by
  obtain ⟨r, hr, rfl⟩ := hn
  exact h n r hr

theorem State.Precedes.not_known {s last : State ι κ α} (h : s.Precedes last) {key : κ} {n : Nat}
    {r : Round κ α} (hr : s.rounds n = some r) (other : r.key ≠ key) : ¬ last.Known key n := by
  rintro ⟨r', hr', rfl⟩
  obtain ⟨r'', hr'', hkey⟩ := h n r hr
  obtain rfl : r' = r'' := by simpa using hr'.symm.trans hr''
  exact other hkey.symm

/-- The key for which an event is a step. -/
def State.keyOf? [DecidableEq ι] (s : State ι κ α) : Event ι κ α → Option κ
  | .look _ key => some key
  | .decide c | .settle c | .drop c => (s.callers.get? c).map Stage.key
  | .finish n _ => (s.rounds n).map Round.key

variable [DecidableEq ι] [DecidableEq κ]

/-- The second state is the first one without the callers and rounds of other keys.  Rounds have the
numbers that they get where only the key is used, up to the last state of a run. -/
structure Projects (key : κ) (last s t : State ι κ α) : Prop where
  started : t.started = last.ordinal key s.started
  rounds : ∀ n, last.Known key n → t.rounds (last.ordinal key n) = s.rounds n
  entry : t.entries.get? key = (s.entries.get? key).map (Slot.renumber (last.ordinal key))
  callers : ∀ c, t.callers.get? c =
    ((s.callers.get? c).filter (·.key = key)).map (Stage.renumber (last.ordinal key))

/-- Two results of a step agree in the same way. -/
structure Mirrored (key : κ) (last : State ι κ α) (r r' : Result ι κ α) : Prop where
  env : r'.1 = r.1
  state : r.2.1.Precedes last → Projects key last r.2.1 r'.2.1
  notes : r'.2.2 = r.2.2.map (Note.renumber (last.ordinal key))

namespace Projects

variable {key : κ} {last s s' t : State ι κ α} {n : Nat} {c : ι}

theorem empty (key : κ) (last : State ι κ α) : Projects key last State.empty State.empty where
  started := (Nat.count_zero _).symm
  rounds _ _ := rfl
  entry := rfl
  callers _ := rfl

theorem isRunning (p : Projects key last s t) (known : last.Known key n) :
    t.isRunning (last.ordinal key n) = s.isRunning n := by
  rw [State.isRunning, p.rounds n known, State.isRunning]

theorem outcome? (p : Projects key last s t) (known : last.Known key n) :
    t.outcome? (last.ordinal key n) = s.outcome? n := by
  rw [State.outcome?, p.rounds n known, State.outcome?]

theorem caller (p : Projects key last s t) {stage : Stage κ}
    (hc : s.callers.get? c = some stage) (hkey : stage.key = key) :
    t.callers.get? c = some (stage.renumber (last.ordinal key)) := by
  rw [p.callers, hc, Option.filter_some, if_pos (by simpa using hkey), Option.map_some]

theorem no_caller (p : Projects key last s t) (hc : s.callers.get? c = none) :
    t.callers.get? c = none := by
  rw [p.callers, hc]
  rfl

theorem isAwaited (p : Projects key last s t) (h : Coherent s) (before : s.Precedes last)
    (known : last.Known key n) (hr : s.Known key n) :
    t.isAwaited (last.ordinal key n) = s.isAwaited n := by
  rw [Bool.eq_iff_iff, State.isAwaited_iff, State.isAwaited_iff]
  constructor
  · rintro ⟨c, key', hc⟩
    rw [p.callers] at hc
    obtain ⟨stage, kept, renumbered⟩ := Option.map_eq_some_iff.1 hc
    obtain ⟨hstage, mine⟩ := Option.filter_eq_some_iff.1 kept
    cases stage with
    | undecided _ => cases renumbered
    | awaiting key' m =>
      obtain rfl : key' = key := of_decide_eq_true mine
      have same : last.ordinal key' m = last.ordinal key' n := by
        simpa [Stage.renumber] using (Stage.awaiting.inj renumbered).2
      obtain rfl := State.ordinal_injective (before.known (h.awaited c key' m hstage)) known same
      exact ⟨c, key', hstage⟩
  · rintro ⟨c, key', hc⟩
    obtain ⟨r, hr, rfl⟩ := hr
    obtain ⟨r', hr', rfl⟩ := h.awaited c key' n hc
    obtain rfl : r = r' := by simpa using hr.symm.trans hr'
    exact ⟨c, r.key, p.caller hc rfl⟩

/-! ## Changes on both sides -/

theorem leave (p : Projects key last s t) (c : ι) : Projects key last (s.leave c) (t.leave c) := by
  refine ⟨p.started, p.rounds, p.entry, fun c' => ?_⟩
  simp only [State.leave, Table.get?_erase]
  by_cases same : c = c'
  · simp [same]
  · simp only [if_neg same]
    exact p.callers c'

theorem insert_caller (p : Projects key last s t) (c : ι) (stage : Stage κ)
    (hkey : stage.key = key) :
    Projects key last { s with callers := s.callers.insert c stage }
      { t with callers := t.callers.insert c (stage.renumber (last.ordinal key)) } := by
  refine ⟨p.started, p.rounds, p.entry, fun c' => ?_⟩
  simp only [Table.get?_insert]
  by_cases same : c = c'
  · simp [same, hkey]
  · simp only [if_neg same]
    exact p.callers c'

theorem with_entries (p : Projects key last s t) {entries entries' : Table κ (Slot α)}
    (entry : entries'.get? key = (entries.get? key).map (Slot.renumber (last.ordinal key))) :
    Projects key last { s with entries := entries } { t with entries := entries' } :=
  ⟨p.started, p.rounds, entry, p.callers⟩

theorem insert_entry (p : Projects key last s t) (slot : Slot α) :
    Projects key last { s with entries := s.entries.insert key slot }
      { t with entries := t.entries.insert key (slot.renumber (last.ordinal key)) } := by
  refine p.with_entries ?_
  rw [Table.get?_insert_self, Table.get?_insert_self, Option.map_some]

theorem settleEntry (p : Projects key last s t) (before : s.Precedes last) (h : Coherent s)
    (known : last.Known key n) (o : Outcome (Resource α)) :
    Projects key last { s with entries := State.settleEntry s.entries key n o }
      { t with
        entries := State.settleEntry t.entries key (last.ordinal key n) o } := by
  by_cases entry : s.entries.get? key = some (.inFlight n)
  · have entry' : t.entries.get? key = some (.inFlight (last.ordinal key n)) := by
      rw [p.entry, entry]
      rfl
    cases o with
    | ok resource =>
      rw [State.settleEntry_ok entry, State.settleEntry_ok entry']
      exact p.insert_entry (.ready n resource)
    | error e =>
      rw [State.settleEntry_error entry, State.settleEntry_error entry']
      refine p.with_entries ?_
      rw [Table.get?_erase_self, Table.get?_erase_self, Option.map_none]
  · have entry' : t.entries.get? key ≠ some (.inFlight (last.ordinal key n)) := by
      intro there
      rw [p.entry] at there
      obtain ⟨slot, hslot, renumbered⟩ := Option.map_eq_some_iff.1 there
      cases slot with
      | ready _ _ => cases renumbered
      | inFlight m =>
        have same : last.ordinal key m = last.ordinal key n := Slot.inFlight.inj renumbered
        obtain rfl := State.ordinal_injective (before.known (h.inFlight key m hslot)) known same
        exact entry hslot
    rw [State.settleEntry_eq_self entry, State.settleEntry_eq_self entry']
    exact p

theorem store (p : Projects key last s t) (known : last.Known key n) (r : Round κ α) :
    Projects key last { s with rounds := Round.store s.rounds n r }
      { t with rounds := Round.store t.rounds (last.ordinal key n) r } := by
  refine ⟨p.started, fun m hm => ?_, p.entry, p.callers⟩
  by_cases same : m = n
  · subst same
    simp
  · have other : last.ordinal key m ≠ last.ordinal key n :=
      fun e => same (State.ordinal_injective hm known e)
    simp only [Round.store_of_ne _ _ same, Round.store_of_ne _ _ other]
    exact p.rounds m hm

theorem startRound (p : Projects key last s t) (now : Nat) (c : ι)
    (known : last.Known key s.started) :
    Projects key last (s.startRound now c key) (t.startRound now c key) := by
  have q := ((p.store known { key := key, startedAt := now, outcome := none }).insert_caller c
    (.awaiting key s.started) rfl).insert_entry (.inFlight s.started)
  refine ⟨?_, ?_, ?_, ?_⟩
  · simp only [State.startRound, p.started, State.ordinal_succ_of_known known]
  · simpa only [State.startRound, p.started] using q.rounds
  · simpa only [State.startRound, p.started, Slot.renumber] using q.entry
  · simpa only [State.startRound, p.started, Stage.renumber] using q.callers

/-! ## Steps for the key -/

section Step

variable {describe : κ → String} {env : Surroundings} {e : Event ι κ α}

theorem firstLook (p : Projects key last s t) (h : Coherent s) (before : s.Precedes last)
    (env : Surroundings) (c : ι) :
    Mirrored key last (firstLook env s c key) (firstLook env t c key) := by
  unfold Cache.firstLook
  rw [p.entry]
  cases entry : s.entries.get? key with
  | none => exact ⟨rfl, fun _ => p.insert_caller c (.undecided key) rfl, rfl⟩
  | some slot =>
    cases slot with
    | ready n resource =>
      simp only [Option.map_some, Slot.renumber]
      split
      · exact ⟨rfl, fun _ => p, rfl⟩
      · exact ⟨rfl, fun _ => p.insert_caller c (.undecided key) rfl, rfl⟩
    | inFlight n =>
      have known := before.known (h.inFlight key n entry)
      simp only [Option.map_some, Slot.renumber, p.isRunning known]
      split
      · exact ⟨rfl, fun _ => p.insert_caller c (.awaiting key n) rfl, rfl⟩
      · exact ⟨rfl, fun _ => p.insert_caller c (.undecided key) rfl, rfl⟩

theorem miss (p : Projects key last s t) (env : Surroundings) (c : ι) :
    Mirrored key last (miss env s c key) (miss env t c key) := by
  refine ⟨rfl, fun before => p.startRound env.now c ?_, ?_⟩
  · exact before.known ⟨_, Round.store_self _ _ _, rfl⟩
  · simp [Cache.miss, Note.renumber, p.started]

theorem secondLook (p : Projects key last s t) (h : Coherent s) (before : s.Precedes last)
    (env : Surroundings) (c : ι) :
    Mirrored key last (secondLook env s c key) (secondLook env t c key) := by
  unfold Cache.secondLook
  rw [p.entry]
  cases entry : s.entries.get? key with
  | none => exact p.miss env c
  | some slot =>
    cases slot with
    | ready n resource =>
      simp only [Option.map_some, Slot.renumber]
      split
      · exact ⟨rfl, fun _ => p.leave c, rfl⟩
      · exact p.miss _ c
    | inFlight n =>
      have known := before.known (h.inFlight key n entry)
      simp only [Option.map_some, Slot.renumber, p.isRunning known, p.outcome? known]
      split
      · exact ⟨rfl, fun _ => p.insert_caller c (.awaiting key n) rfl, rfl⟩
      · split
        · split
          · exact ⟨rfl, fun _ => (p.leave c).insert_entry _, rfl⟩
          · exact p.miss _ c
        · exact p.miss _ c

variable (describe env) in
/-- What can be done for the key can be done where only the key is used, with the same effect, and
nothing else can. -/
theorem step (p : Projects key last s t) (h : Coherent s) (before : s.Precedes last)
    (mine : s.keyOf? e = some key) (free : ∀ c, e = .look c key → s.callers.get? c = none) :
    Option.Rel (Mirrored key last) (step describe env s e)
      (step describe env t (e.renumber (last.ordinal key))) := by
  cases e with
  | look c key' =>
    obtain rfl : key' = key := Option.some.inj mine
    simp only [Cache.step, Event.renumber, free c rfl, p.no_caller (free c rfl)]
    exact .some (p.firstLook h before env c)
  | decide c =>
    obtain ⟨stage, hc, hkey⟩ := Option.map_eq_some_iff.1 mine
    simp only [Cache.step, Event.renumber, hc, p.caller hc hkey]
    cases stage with
    | undecided key' =>
      obtain rfl : key' = key := hkey
      exact .some (p.secondLook h before env c)
    | awaiting key' n => exact .none
  | finish n ending =>
    obtain ⟨r, hr, rfl⟩ := Option.map_eq_some_iff.1 mine
    have known := before.known ⟨r, hr, rfl⟩
    simp only [Cache.step, Event.renumber, p.rounds n known, hr,
      p.isAwaited h before known ⟨r, hr, rfl⟩]
    split
    · exact .some ⟨rfl, fun _ => p.store known _, rfl⟩
    · exact .none
  | settle c =>
    obtain ⟨stage, hc, hkey⟩ := Option.map_eq_some_iff.1 mine
    simp only [Cache.step, Event.renumber, hc, p.caller hc hkey]
    cases stage with
    | undecided key' => exact .none
    | awaiting key' n =>
      obtain rfl : key' = key := hkey
      have known := before.known (h.awaited c key' n hc)
      simp only [Stage.renumber, p.outcome? known]
      split
      · exact .some ⟨rfl, fun _ => (p.leave c).settleEntry before (h.leave c) known _, rfl⟩
      · exact .none
  | drop c =>
    obtain ⟨stage, hc, hkey⟩ := Option.map_eq_some_iff.1 mine
    simp only [Cache.step, Event.renumber, hc, p.caller hc hkey]
    exact .some ⟨rfl, fun _ => p.leave c, rfl⟩

end Step

end Projects

/-! ## Steps for other keys -/

section Elsewhere

variable {describe : κ → String} {env env' : Surroundings} {last s s' t : State ι κ α}
  {e : Event ι κ α} {notes : List (Note ι κ α)} {key key' : κ} {c : ι}

omit [DecidableEq κ] in
theorem Looks.keyOf? {path : Path} (looks : Looks s c key e path) : s.keyOf? e = some key := by
  cases looks with
  | first _ => rfl
  | second undecided => simp [State.keyOf?, undecided, Stage.key]

theorem filter_erase_caller {callers : Table ι (Stage κ)}
    (other : ∀ stage, callers.get? c = some stage → stage.key ≠ key) (c' : ι) :
    ((callers.erase c).get? c').filter (·.key = key) =
      (callers.get? c').filter (·.key = key) := by
  rw [Table.get?_erase]
  by_cases same : c = c'
  · subst same
    rw [if_pos rfl]
    cases hc : callers.get? c with
    | none => rfl
    | some stage =>
      rw [Option.filter_some, if_neg (by simpa using other stage hc), Option.filter_none]
  · rw [if_neg same]

theorem filter_insert_caller {callers : Table ι (Stage κ)} (stage : Stage κ)
    (other : ∀ stage, callers.get? c = some stage → stage.key ≠ key) (hkey : stage.key ≠ key)
    (c' : ι) :
    ((callers.insert c stage).get? c').filter (·.key = key) =
      (callers.get? c').filter (·.key = key) := by
  rw [← filter_erase_caller other, Table.get?_insert, Table.get?_erase]
  by_cases same : c = c'
  · rw [if_pos same, if_pos same, Option.filter_some, if_neg (by simpa using hkey),
      Option.filter_none]
  · rw [if_neg same, if_neg same]

/-- A step for one key does nothing to the entries of the others. -/
theorem Transition.entry_elsewhere (t : Transition describe env s e env' s' notes)
    (other : s.keyOf? e ≠ some key) : s'.entries.get? key = s.entries.get? key := by
  cases t with
  | hit _ _ _ | join _ _ _ | defer _ _ _ | finish _ _ _ | drop _ => rfl
  | promote undecided _ _ _ =>
    refine Table.get?_insert_of_ne ?_
    rintro rfl
    exact other (Looks.second undecided).keyOf?
  | miss undecided _ _ _ =>
    refine Table.get?_insert_of_ne ?_
    rintro rfl
    exact other (Looks.second undecided).keyOf?
  | settle awaits _ =>
    refine State.get?_settleEntry_of_ne ?_
    rintro rfl
    exact other (by simp [State.keyOf?, awaits, Stage.key])

/-- A step for one key does nothing to the callers of the others. -/
theorem Transition.callers_elsewhere (t : Transition describe env s e env' s' notes)
    (other : s.keyOf? e ≠ some key) (c : ι) :
    (s'.callers.get? c).filter (·.key = key) = (s.callers.get? c).filter (·.key = key) := by
  have elsewhere : ∀ {c stage}, s.callers.get? c = some stage →
      s.keyOf? e = (s.callers.get? c).map Stage.key → stage.key ≠ key := by
    rintro c stage hc hkey rfl
    exact other (by rw [hkey, hc, Option.map_some])
  have looker : ∀ {c key' path}, Looks s c key' e path →
      (∀ stage, s.callers.get? c = some stage → stage.key ≠ key) ∧ key' ≠ key := by
    intro c key' path looks
    refine ⟨fun stage hc => ?_, fun same => other (same ▸ looks.keyOf?)⟩
    cases looks with
    | first free => rw [free] at hc; cases hc
    | second _ => exact elsewhere hc rfl
  cases t with
  | hit looks _ _ => exact filter_erase_caller (looker looks).1 c
  | join looks _ _ => exact filter_insert_caller (.awaiting _ _) (looker looks).1 (looker looks).2 c
  | defer free _ _ =>
    exact filter_insert_caller (.undecided _) (looker (.first free)).1 (looker (.first free)).2 c
  | promote undecided _ _ _ => exact filter_erase_caller (looker (.second undecided)).1 c
  | miss undecided _ _ _ =>
    exact filter_insert_caller (.awaiting _ _) (looker (.second undecided)).1
      (looker (.second undecided)).2 c
  | finish _ _ _ => rfl
  | settle awaits _ => exact filter_erase_caller (fun stage hc => elsewhere hc rfl) c
  | drop _ => exact filter_erase_caller (fun stage hc => elsewhere hc rfl) c

/-- Where only the key is used, nothing happens in a step for another key. -/
theorem Transition.elsewhere (t : Transition describe env s e env' s' notes)
    {u : State ι κ α} (p : Projects key last s u) (before : s'.Precedes last)
    (other : s.keyOf? e ≠ some key) : Projects key last s' u := by
  have entry := t.entry_elsewhere other
  have callers := t.callers_elsewhere other
  have rounds : s'.started = s.started ∧ s'.rounds = s.rounds → Projects key last s' u :=
    fun ⟨started, rounds⟩ => ⟨by rw [p.started, started], by simpa only [rounds] using p.rounds,
      by rw [p.entry, entry], fun c => by rw [p.callers, callers]⟩
  cases t with
  | hit _ _ _ | join _ _ _ | defer _ _ _ | promote _ _ _ _ | settle _ _ | drop _ =>
    exact rounds ⟨rfl, rfl⟩
  | @miss c key' _ undecided _ _ _ =>
    -- The new round is another key's, so it is not counted.
    have uncounted : ¬ last.Known key s.started := by
      refine before.not_known (Round.store_self _ _ _) ?_
      rintro rfl
      exact other (Looks.second undecided).keyOf?
    refine ⟨?_, fun n known => ?_, by rw [p.entry, entry], fun c => by rw [p.callers, callers]⟩
    · rw [p.started]
      exact (State.ordinal_succ_of_not_known uncounted).symm
    · have different : n ≠ s.started := fun same => uncounted (same ▸ known)
      exact (p.rounds n known).trans (Round.store_of_ne _ _ different).symm
  | @finish n r _ hr _ _ =>
    have uncounted : ¬ last.Known key n := by
      refine before.not_known (Round.store_self _ _ _) ?_
      rintro rfl
      exact other (by simp [State.keyOf?, hr])
    refine ⟨p.started, fun m known => ?_, by rw [p.entry, entry], fun c => by
      rw [p.callers, callers]⟩
    have different : m ≠ n := fun same => uncounted (same ▸ known)
    exact (p.rounds m known).trans (Round.store_of_ne _ _ different).symm

end Elsewhere

/-! ## Runs -/

/-- The moves for the key. -/
def movesFor (key : κ) (moves : List (Step ι κ α)) : List (Step ι κ α) :=
  moves.filter fun m => m.before.keyOf? m.event = some key

theorem movesFor_concat_of_mine {key : κ} {m : Step ι κ α}
    (mine : m.before.keyOf? m.event = some key) (moves : List (Step ι κ α)) :
    movesFor key (moves ++ [m]) = movesFor key moves ++ [m] := by
  simp [movesFor, mine]

theorem movesFor_concat_of_other {key : κ} {m : Step ι κ α}
    (other : m.before.keyOf? m.event ≠ some key) (moves : List (Step ι κ α)) :
    movesFor key (moves ++ [m]) = movesFor key moves := by
  simp [movesFor, other]

/-- The second move does the same for the key as the first one, in the same surroundings, under the
new numbers of rounds. -/
structure Mirrors (key : κ) (last : State ι κ α) (m m' : Step ι κ α) : Prop where
  env : m'.env = m.env
  event : m'.event = m.event.renumber (last.ordinal key)
  notes : m'.notes = m.notes.map (Note.renumber (last.ordinal key))
  before : m'.before.entries.get? key =
    (m.before.entries.get? key).map (Slot.renumber (last.ordinal key))
  after : m'.after.entries.get? key =
    (m.after.entries.get? key).map (Slot.renumber (last.ordinal key))

section Run

variable {describe : κ → String} {world : Surroundings → State ι κ α → Surroundings → Prop}
  {moves : List (Step ι κ α)} {env env₀ : Surroundings} {s s₀ last : State ι κ α} {key : κ}

theorem path_precedes (path : (system describe world).Path env₀ s₀ moves env s) (h : Coherent s₀) :
    s₀.Precedes s := by
  intro n r hr
  obtain ⟨r', hr', grows⟩ := path_rounds_grow path h hr
  exact ⟨r', hr', grows.key⟩

omit [DecidableEq ι] [DecidableEq κ] in
theorem State.Precedes.trans {s₁ s₂ s₃ : State ι κ α} (h : s₁.Precedes s₂) (h' : s₂.Precedes s₃) :
    s₁.Precedes s₃ := by
  intro n r hr
  obtain ⟨r', hr', hkey⟩ := h n r hr
  obtain ⟨r'', hr'', hkey'⟩ := h' n r' hr'
  exact ⟨r'', hr'', hkey'.trans hkey⟩

/-- The moves for a key make up a run of their own. -/
theorem path_projects (path : (system describe world).Path env₀ State.empty moves env s)
    (before : s.Precedes last) (key : κ) :
    ∃ moves' t, (system describe fun _ _ _ => True).Path env₀ State.empty moves' env t ∧
      List.Forall₂ (Mirrors key last) (movesFor key moves) moves' ∧ Projects key last s t := by
  induction path with
  | nil => exact ⟨[], State.empty, .nil, .nil, .empty key last⟩
  | wait _ _ ih =>
    obtain ⟨moves', t, path', mirrors, p⟩ := ih before
    exact ⟨moves', t, path'.wait trivial, mirrors, p⟩
  | @move moves env env' s s' e notes path hs ih =>
    have coherent := path_coherent path .empty
    have step_before : s.Precedes s' := path_precedes (.move .nil hs) coherent
    have s_before := step_before.trans before
    obtain ⟨moves', t, path', mirrors, p⟩ := ih s_before
    by_cases mine : s.keyOf? e = some key
    · have free : ∀ c, e = .look c key → s.callers.get? c = none := by
        rintro c rfl
        cases hc : s.callers.get? c with
        | none => rfl
        | some stage => simp [system, step, hc] at hs
      have hs' : step describe env s e = some (env', s', notes) := hs
      obtain ⟨⟨env₁, t', notes'⟩, taken, same⟩ :
          ∃ r, step describe env t (e.renumber (last.ordinal key)) = some r ∧
            Mirrored key last (env', s', notes) r := by
        have both := p.step describe env coherent s_before mine free
        rw [hs'] at both
        cases hr : step describe env t (e.renumber (last.ordinal key)) with
        | none => rw [hr] at both; cases both
        | some r =>
          rw [hr] at both
          cases both with
          | some same => exact ⟨r, rfl, same⟩
      obtain rfl : env₁ = env' := same.env
      have p' := same.state before
      refine ⟨_, t', path'.move taken, ?_, p'⟩
      rw [movesFor_concat_of_mine mine]
      exact List.rel_append mirrors (.cons ⟨rfl, rfl, same.notes, p.entry, p'.entry⟩ .nil)
    · refine ⟨moves', t, path'.wait trivial, ?_, (step_transition hs).elsewhere p before mine⟩
      rw [movesFor_concat_of_other mine]
      exact mirrors

omit [DecidableEq ι] [DecidableEq κ] in
theorem State.Precedes.refl (s : State ι κ α) : s.Precedes s := fun _ r hr => ⟨r, hr, rfl⟩

/-- What happens for a key does not depend on the other keys.  Each step of theirs leaves its entry
as it is.  The steps for the key alone make up a run, in which each of them is taken in the same
surroundings, makes the same known and leads from the same entry to the same entry; only the rounds
have other numbers, in the same order.  After the run the same steps for the key can be taken in
both states, so nothing that is done or left undone for another key holds a request up. -/
theorem keys_isolated (run : (system describe world).Run moves env s) (key : κ) :
    (∀ m ∈ moves, m.before.keyOf? m.event ≠ some key →
      m.after.entries.get? key = m.before.entries.get? key) ∧
    (∀ m n, s.Known key m → s.Known key n → m < n → s.ordinal key m < s.ordinal key n) ∧
    ∃ moves' t, (system describe fun _ _ _ => True).Run moves' env t ∧
      List.Forall₂ (Mirrors key s) (movesFor key moves) moves' ∧
      t.entries.get? key = (s.entries.get? key).map (Slot.renumber (s.ordinal key)) ∧
      ∀ env e, s.keyOf? e = some key → (∀ c, e = .look c key → s.callers.get? c = none) →
        (step describe env t (e.renumber (s.ordinal key))).isSome =
          (step describe env s e).isSome := by
  obtain ⟨env₀, path⟩ := run
  have coherent := path_coherent path .empty
  obtain ⟨moves', t, path', mirrors, p⟩ := path_projects path (.refl s) key
  refine ⟨fun m hm other => ?_, fun m n hm _ => State.ordinal_lt hm, moves', t, ⟨env₀, path'⟩,
    mirrors, p.entry, fun env e mine free => ?_⟩
  · obtain ⟨_, _, _, -, -, hs, -⟩ := System.Run.cut_of_mem ⟨env₀, path⟩ hm
    exact (step_transition hs).entry_elsewhere other
  · have both := p.step describe env coherent (.refl s) mine free
    generalize step describe env s e = r, step describe env t _ = r' at both ⊢
    cases both <;> rfl

end Run

/-- A fetch for one key never ends.  A request for another key starts the second round of the run,
and is answered as if that round were the first. -/
theorem keys_isolated_stuck :
    ∃ moves env, ∃ s : State Nat Nat Nat, ∃ resource,
      (system (fun _ => "") fun _ _ _ => True).Run moves env s ∧ s.Running 1 0 ∧
      s.entries.get? 7 = some (.ready 1 resource) ∧
      ∃ moves' t, (system (fun _ => "") fun _ _ _ => True).Run moves' env t ∧
        List.Forall₂ (Mirrors 7 s) (movesFor 7 moves) moves' ∧ moves'.length = 4 ∧
        t.entries.get? 7 = some (.ready 0 resource) := by
  let resource : Resource Nat :=
    { value := 5, object := 0, validity := .permanent, sensitive := false }
  have run : (system (fun _ => "") fun _ _ _ => True : System (State Nat Nat Nat) _ _).Run _ _ _ :=
    ⟨.start, .of_replay [.look 0 1, .decide 0, .look 1 7, .decide 1,
      .finish 1 (.returned (.ok resource)), .settle 1] rfl⟩
  obtain ⟨-, -, moves', t, run', mirrors, entry, -⟩ := keys_isolated run 7
  exact ⟨_, _, _, resource, run, ⟨_, rfl, rfl, rfl⟩, rfl, moves', t, run', mirrors,
    mirrors.length_eq.symm, entry⟩

end Cache
end SingleFlight
