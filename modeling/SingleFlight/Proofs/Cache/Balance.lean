import Mathlib.Data.List.Nodup
import SingleFlight.Proofs.Cache.Answers
import SingleFlight.Proofs.Measurements

/-!
What the keyed cache counts.

Requests are counted at the looks, fetches when a round starts, and spans and failures when one
ends.  What is measured of a step is what it does to lookups and rounds (`Entry`), so along a run the
totals are those of the lookups and of the rounds (`Balanced`).  A round that has not ended is the
one in flight of its key, which closes the account: `measurements_balance`.
-/

namespace SingleFlight

theorem ErrorKind.label_injective {kind kind' : ErrorKind} (h : kind.label = kind'.label) :
    kind = kind' := by
  cases kind <;> cases kind' <;> simp_all [label]

namespace Cache

open Metrics

variable {ι κ α : Type}

/-- The kind of the error, if the outcome is one. -/
def failureKind? (o : Outcome (Resource α)) : Option ErrorKind :=
  match o with
  | .ok _ => none
  | .error e => some e.kind

namespace State

/-- The outcomes of the rounds that have ended, in the order in which these were started. -/
def outcomes (s : State ι κ α) : List (Outcome (Resource α)) :=
  (List.range s.started).filterMap s.outcome?

/-- The number of rounds that have ended with an error of the kind. -/
def failed (s : State ι κ α) (kind : ErrorKind) : Nat :=
  s.outcomes.countP fun o => failureKind? o = some kind

/-- Whether the entry is a round in flight that has not ended. -/
def isUnfinished (s : State ι κ α) : Slot α → Bool
  | .inFlight n => s.isRunning n
  | .ready _ _ => false

/-- The number of keys whose entry is a round in flight that has not ended. -/
def unfinished (s : State ι κ α) : Nat := s.entries.rows.countP fun row => s.isUnfinished row.2

variable {s s' : State ι κ α}

theorem failed_congr (h : s'.outcomes = s.outcomes) (kind : ErrorKind) :
    s'.failed kind = s.failed kind := by
  unfold failed
  rw [h]

theorem failed_le (s : State ι κ α) (kind : ErrorKind) : s.failed kind ≤ s.outcomes.length :=
  List.countP_le_length

/-- An error is of one kind or the other. -/
theorem failed_add_failed (s : State ι κ α) :
    s.failed .configuration + s.failed .fetch =
      s.outcomes.countP fun o => (failureKind? o).isSome := by
  unfold failed
  induction s.outcomes with
  | nil => rfl
  | cons o os ih =>
    rw [List.countP_cons, List.countP_cons, List.countP_cons, ← ih]
    cases failureKind? o with
    | none => rfl
    | some kind =>
      cases kind <;> simp <;> omega

end State

/-! ## What is measured of one step -/

section Entry

variable {s s' : State ι κ α} {name : String}

/-- What is measured of a step agrees with what it does to lookups and rounds. -/
structure Entry (name : String) (s s' : State ι κ α) (completed : Bool)
    (more : List Metrics.Event) : Prop where
  requests : total Event.requests? (name, "hit") more + total Event.requests? (name, "miss") more +
    total Event.requests? (name, "joined") more = completed.toNat
  misses : s'.started = s.started + total Event.requests? (name, "miss") more
  fetches : s'.started = s.started + total Event.fetches? name more
  spans : s'.outcomes.length = s.outcomes.length + (readings Event.duration? name more).length
  failures : ∀ kind : ErrorKind,
    s'.failed kind = s.failed kind + total Event.failures? (name, kind.label) more

theorem Entry.rests (started : s'.started = s.started) (outcomes : s'.outcomes = s.outcomes) :
    Entry name s s' false [] :=
  ⟨rfl, started, started, congrArg List.length outcomes, State.failed_congr outcomes⟩

theorem Entry.serves {outcome : String} (how : outcome = "hit" ∨ outcome = "joined")
    (started : s'.started = s.started) (outcomes : s'.outcomes = s.outcomes) :
    Entry name s s' true [.requests name outcome 1] := by
  refine ⟨?_, ?_, started, congrArg List.length outcomes, State.failed_congr outcomes⟩
  · rcases how with rfl | rfl <;> simp [total, readings, Event.requests?]
  · rcases how with rfl | rfl <;> simp [total, readings, Event.requests?, started]

theorem Entry.starts (started : s'.started = s.started + 1)
    (outcomes : s'.outcomes = s.outcomes) :
    Entry name s s' true [.requests name "miss" 1, .fetches name 1] := by
  refine ⟨?_, ?_, ?_, congrArg List.length outcomes, State.failed_congr outcomes⟩
  · simp [total, readings, Event.requests?]
  · simp [total, readings, Event.requests?, started]
  · simp [total, readings, Event.fetches?, started]

theorem Entry.ends {key : κ} {n elapsed : Nat} {o : Outcome (Resource α)}
    (started : s'.started = s.started) (outcomes : s'.outcomes.Perm (o :: s.outcomes)) :
    Entry name s s' false ((Note.finished key n elapsed o : Note ι κ α).metrics name) := by
  have failures : ∀ kind, s'.failed kind =
      s.failed kind + if failureKind? o = some kind then 1 else 0 := by
    intro kind
    simp [State.failed, outcomes.countP_eq, List.countP_cons]
  have spans : (readings Event.duration? name
      ((Note.finished key n elapsed o : Note ι κ α).metrics name)).length = 1 := by
    cases o <;> simp [Note.metrics, readings, Event.duration?]
  refine ⟨?_, ?_, ?_, by rw [spans, outcomes.length_eq, List.length_cons], fun kind => ?_⟩
  · cases o <;> rfl
  · cases o <;> exact started
  · cases o <;> exact started
  · rw [failures kind]
    refine congrArg _ ?_
    cases o with
    | ok resource => rfl
    | error e =>
      show (if some e.kind = some kind then 1 else 0) =
        total Event.failures? _ [.duration name elapsed, .failures name e.kind.label 1]
      rw [total_cons, total_of_none rfl, total_singleton rfl, Nat.zero_add]
      by_cases hk : e.kind = kind
      · rw [hk, if_pos rfl, if_pos rfl]
      · have different : (name, e.kind.label) ≠ (name, kind.label) := fun same =>
          hk (ErrorKind.label_injective (Prod.mk.inj same).2)
        rw [if_neg different, if_neg fun same => hk (Option.some.inj same)]

end Entry

/-! ## What is measured along a run -/

section Balanced

variable [DecidableEq ι] {s s' : State ι κ α} {moves : List (Step ι κ α)} {name : String}
  {events more : List Metrics.Event}

/-- In this move a request takes a look and need not take another. -/
def completesLookup (m : Step ι κ α) : Bool :=
  match m.event with
  | .look caller _ =>
    match m.after.callers.get? caller with
    | some (.undecided _) => false
    | _ => true
  | .decide _ => true
  | .finish _ _ | .settle _ | .drop _ => false

/-- The number of lookups that were completed on the way. -/
def lookups (moves : List (Step ι κ α)) : Nat := moves.countP completesLookup

/-- A counter shows the number as far as it can.  It starts again after its last number, which no
counter comes to where there are fewer lookups than that. -/
def Tallies (moves : List (Step ι κ α)) (shown n : Nat) : Prop :=
  shown % counterBound = n % counterBound ∧ (lookups moves < counterBound → shown = n)

/-- What is measured along a run agrees with the lookups and the rounds. -/
structure Balanced (name : String) (events : List Metrics.Event) (moves : List (Step ι κ α))
    (s : State ι κ α) : Prop where
  requests : total Event.requests? (name, "hit") events +
    total Event.requests? (name, "miss") events +
    total Event.requests? (name, "joined") events = lookups moves
  misses : total Event.requests? (name, "miss") events = s.started
  fetches : total Event.fetches? name events = s.started
  spans : (readings Event.duration? name events).length = s.outcomes.length
  failures : ∀ kind : ErrorKind, total Event.failures? (name, kind.label) events = s.failed kind

theorem Looks.completes {env : Surroundings} {e : Event ι κ α} {notes : List (Note ι κ α)}
    {caller : ι} {key : κ} {path : Path} (looks : Looks s caller key e path)
    (decided : ∀ k, s'.callers.get? caller ≠ some (.undecided k)) :
    completesLookup ⟨env, s, e, notes, s'⟩ = true := by
  cases looks with
  | first _ =>
    show (match s'.callers.get? caller with
      | some (.undecided _) => false
      | _ => true) = true
    split
    · rename_i k undecided
      exact absurd undecided (decided k)
    · rfl
  | second _ => rfl

theorem Tallies.of_le {n : Nat} (h : n ≤ lookups moves) : Tallies moves (n % counterBound) n :=
  ⟨Nat.mod_mod _ _, fun few => Nat.mod_eq_of_lt (Nat.lt_of_le_of_lt h few)⟩

theorem Tallies.add {a b m n : Nat} (ha : Tallies moves a m) (hb : Tallies moves b n) :
    Tallies moves (a + b) (m + n) := by
  refine ⟨?_, fun few => by rw [ha.2 few, hb.2 few]⟩
  rw [Nat.add_mod, ha.1, hb.1, ← Nat.add_mod]

theorem Balanced.start : Balanced name [] [] (State.empty : State ι κ α) :=
  ⟨rfl, rfl, rfl, rfl, fun _ => rfl⟩

theorem Balanced.concat (h : Balanced name events moves s) {m : Step ι κ α}
    (entry : Entry name s s' (completesLookup m) more) :
    Balanced name (events ++ more) (moves ++ [m]) s' := by
  constructor
  case requests =>
    have one_more : lookups (moves ++ [m]) = lookups moves + (completesLookup m).toNat :=
      countP_concat _ _ _
    rw [total_append, total_append, total_append, one_more, ← h.requests, ← entry.requests]
    omega
  case misses => rw [total_append, h.misses, entry.misses]
  case fetches => rw [total_append, h.fetches, entry.fetches]
  case spans => rw [readings_append, List.length_append, h.spans, entry.spans]
  case failures => intro kind; rw [total_append, h.failures, entry.failures]

end Balanced

variable [DecidableEq ι] [DecidableEq κ]

/-! ## Rounds -/

/-- Where one more element is picked, what is picked is the rest and it. -/
theorem perm_filterMap_of_one {β γ : Type} [DecidableEq β] {f g : β → Option γ} {l : List β} {b : β}
    {c : γ} (distinct : l.Nodup) (hb : b ∈ l) (before : f b = none) (after : g b = some c)
    (others : ∀ x, x ≠ b → g x = f x) : (l.filterMap g).Perm (c :: l.filterMap f) := by
  have split : l.Perm (b :: l.erase b) := List.perm_cons_erase hb
  have rest : (l.erase b).filterMap g = (l.erase b).filterMap f :=
    List.filterMap_congr fun x hx => others x (distinct.mem_erase_iff.1 hx).1
  have hg := split.filterMap g
  have hf := split.filterMap f
  rw [List.filterMap_cons_some after, rest] at hg
  rw [List.filterMap_cons_none before] at hf
  exact hg.trans (hf.symm.cons c)

theorem Coherent.outcomes_finish {s : State ι κ α} (h : Coherent s) {n : Nat} {r : Round κ α}
    (hr : s.rounds n = some r) (running : r.outcome = none) (o : Outcome (Resource α)) :
    (State.outcomes
      { s with rounds := Round.store s.rounds n { r with outcome := some o } }).Perm
      (o :: s.outcomes) := by
  refine perm_filterMap_of_one List.nodup_range (List.mem_range.2 (h.lt_started hr)) ?_ ?_ ?_
  · simp [State.outcome?, hr, running]
  · simp [State.outcome?]
  · intro m hm
    simp [State.outcome?, Round.store_of_ne _ _ hm]

theorem State.outcomes_startRound (s : State ι κ α) (now : Nat) (c : ι) (key : κ) :
    (s.startRound now c key).outcomes = s.outcomes := by
  have fresh : (s.startRound now c key).outcome? s.started = none := by
    simp [State.outcome?, State.startRound]
  have others : ∀ m ∈ List.range s.started,
      (s.startRound now c key).outcome? m = s.outcome? m := by
    intro m hm
    have ne : m ≠ s.started := Nat.ne_of_lt (List.mem_range.1 hm)
    simp [State.outcome?, State.startRound, Round.store_of_ne _ _ ne]
  show (List.range (s.started + 1)).filterMap _ = _
  rw [List.range_succ, List.filterMap_append, List.filterMap_congr others,
    List.filterMap_cons_none fresh]
  exact List.append_nil _

theorem Coherent.running_of_isUnfinished {s : State ι κ α} (h : Coherent s) {row : κ × Slot α}
    (hrow : row ∈ s.entries.rows) (unfinished : s.isUnfinished row.2 = true) :
    row.2 = .inFlight row.2.round ∧ s.Running row.1 row.2.round := by
  obtain ⟨key, slot⟩ := row
  cases slot with
  | ready _ _ => cases unfinished
  | inFlight n => exact ⟨rfl, (h.inFlight key n (Table.get?_eq_some_iff.2 hrow)).running unfinished⟩

/-- As many keys have an unfinished round in flight as there are rounds that have not ended. -/
theorem Coherent.unfinished_eq {s : State ι κ α} (h : Coherent s) :
    s.unfinished = (List.range s.started).countP s.isRunning := by
  unfold State.unfinished
  rw [List.countP_eq_length_filter, List.countP_eq_length_filter,
    ← List.length_map fun row : κ × Slot α => row.2.round]
  refine List.Perm.length_eq ((List.perm_ext_iff_of_nodup ?_ ?_).2 fun n => ?_)
  -- A round in flight is of one key, so no two rows name the same one.
  · refine List.Nodup.map_on ?_ (s.entries.distinct.of_map.filter _)
    intro row hrow row' hrow' same
    obtain ⟨hrow, unfinished⟩ := List.mem_filter.1 hrow
    obtain ⟨hrow', unfinished'⟩ := List.mem_filter.1 hrow'
    obtain ⟨hslot, r, hr, hkey, -⟩ := h.running_of_isUnfinished hrow unfinished
    obtain ⟨hslot', r', hr', hkey', -⟩ := h.running_of_isUnfinished hrow' unfinished'
    rw [← same] at hr' hslot'
    obtain rfl : r = r' := Option.some.inj (hr.symm.trans hr')
    exact Prod.ext (hkey.symm.trans hkey') (hslot.trans hslot'.symm)
  · exact List.nodup_range.filter _
  · rw [List.mem_map, List.mem_filter, List.mem_range]
    constructor
    · rintro ⟨row, hrow, rfl⟩
      obtain ⟨hrow, unfinished⟩ := List.mem_filter.1 hrow
      obtain ⟨-, running⟩ := h.running_of_isUnfinished hrow unfinished
      obtain ⟨r, hr, -⟩ := id running
      exact ⟨h.lt_started hr, running.isRunning⟩
    · rintro ⟨-, running⟩
      obtain ⟨r, hr, ho⟩ := State.isRunning_iff.1 running
      have entry := h.running r.key n ⟨r, hr, rfl, ho⟩
      exact ⟨(r.key, .inFlight n),
        List.mem_filter.2 ⟨Table.get?_eq_some_iff.1 entry, running⟩, rfl⟩

/-- Every round has ended or is the one in flight of a key. -/
theorem Coherent.started_eq {s : State ι κ α} (h : Coherent s) :
    s.started = s.outcomes.length + s.unfinished := by
  have running : ∀ n ∈ List.range s.started,
      (s.isRunning n = true ↔ decide ¬ (s.outcome? n).isSome = true) := by
    intro n hn
    obtain ⟨r, hr⟩ := Option.isSome_iff_exists.1 ((h.numbered n).2 (List.mem_range.1 hn))
    cases ho : r.outcome <;> simp [State.isRunning, State.outcome?, hr, ho]
  rw [h.unfinished_eq, State.outcomes, List.length_filterMap_eq_countP, List.countP_congr running,
    ← List.length_eq_countP_add_countP, List.length_range]

/-! ## Runs -/

section Run

variable {describe : κ → String} {world : Surroundings → State ι κ α → Surroundings → Prop}
  {moves : List (Step ι κ α)} {env env' : Surroundings} {s s' : State ι κ α}
  {events : List Metrics.Event}

theorem Transition.entry {e : Event ι κ α} {notes : List (Note ι κ α)}
    (t : Transition describe env s e env' s' notes) (h : Coherent s) (name : String) :
    Entry name s s' (completesLookup ⟨env, s, e, notes, s'⟩)
      (notes.flatMap (Note.metrics name)) := by
  cases t with
  -- Only a first look that finds nothing leaves the lookup open.
  | hit looks _ _ =>
    rw [looks.completes (by simp [State.leave])]
    exact .serves (.inl rfl) rfl rfl
  | join looks _ _ =>
    rw [looks.completes (by simp [State.await])]
    exact .serves (.inr rfl) rfl rfl
  | @defer caller key _ _ _ _ =>
    have put_off : completesLookup ⟨env, s, .look caller key, [], { s with
        callers := s.callers.insert caller (.undecided key) }⟩ = false := by
      simp [completesLookup]
    rw [put_off]
    exact .rests rfl rfl
  | promote _ _ _ _ => exact .serves (.inl rfl) rfl rfl
  | miss _ _ _ _ => exact .starts rfl (s.outcomes_startRound _ _ _)
  | finish hr ho _ =>
    rw [List.flatMap_singleton]
    exact .ends rfl (h.outcomes_finish hr ho _)
  | settle _ _ | drop _ => exact .rests rfl rfl

theorem run_balanced (run : (system describe world).Run moves env s) (name : String) :
    Balanced name (measured (Note.metrics name) moves) moves s := by
  obtain ⟨env₀, path⟩ := run
  induction path with
  | nil => exact .start
  | wait _ _ ih => exact ih
  | move path hs ih =>
    rw [measured_concat]
    exact ih.concat ((step_transition hs).entry (path_coherent path .empty) name)

/-- The measurements of a cache add up, wherever a run leads and whatever is recorded of others.

Every completed lookup is counted as a hit, a miss or a join.  A miss is counted for each round that
was started, and so is a fetch.  A span is observed for each round that has ended, and the rounds
that have not are those in flight of the keys.  A failure is counted for each round that has ended
with an error, under the kind of the error, and every caller that is answered from a round is
answered with its outcome. -/
theorem measurements_balance (run : (system describe world).Run moves env s) (name : String)
    (own : (events.filter fun e => e.cache = name).Perm (measured (Note.metrics name) moves)) :
    let shown := Registry.recordAll {} events
    Tallies moves (shown.requested name "hit" + shown.requested name "miss" +
      shown.requested name "joined") (lookups moves) ∧
    shown.requested name "miss" = shown.fetched name ∧
    Tallies moves (shown.fetched name) s.started ∧
    (shown.spans name).length = s.outcomes.length ∧
    Tallies moves (shown.fetched name) ((shown.spans name).length + s.unfinished) ∧
    Tallies moves (shown.failed name "configuration" + shown.failed name "fetch")
      (s.outcomes.countP fun o => (failureKind? o).isSome) ∧
    (∀ kind : ErrorKind, Tallies moves (shown.failed name kind.label) (s.failed kind)) ∧
    ∀ m ∈ moves, ∀ caller key n o, .answered caller key n o ∈ m.notes → s.outcome? n = some o := by
  intro shown
  have balanced := run_balanced run name
  have closed := (run_coherent run).started_eq
  have few_misses : s.started ≤ lookups moves := by
    have sum := balanced.requests
    have misses := balanced.misses
    omega
  have requested : ∀ outcome, shown.requested name outcome =
      total Event.requests? (name, outcome) (measured (Note.metrics name) moves) % counterBound := by
    intro outcome
    rw [Registry.requested_recordAll, total_perm (fun _ _ => Event.cache_of_requests?) own]
  have fetched : shown.fetched name = s.started % counterBound := by
    rw [Registry.fetched_recordAll, total_perm (fun _ _ => Event.cache_of_fetches?) own,
      balanced.fetches]
  have spans : (shown.spans name).length = s.outcomes.length := by
    rw [Registry.spans_recordAll, ← balanced.spans]
    exact (readings_perm (fun _ _ => Event.cache_of_duration?) own).length_eq
  have failed : ∀ kind : ErrorKind,
      Tallies moves (shown.failed name kind.label) (s.failed kind) := by
    intro kind
    rw [Registry.failed_recordAll, total_perm (fun _ _ => Event.cache_of_failures?) own,
      balanced.failures]
    refine .of_le ?_
    have few := s.failed_le kind
    omega
  refine ⟨?_, ?_, ?_, spans, ?_, ?_, failed, ?_⟩
  · rw [requested, requested, requested, ← balanced.requests]
    have sum := balanced.requests
    exact ((Tallies.of_le (by omega)).add (.of_le (by omega))).add (.of_le (by omega))
  · rw [requested, balanced.misses, fetched]
  · rw [fetched]
    exact .of_le few_misses
  · rw [spans, ← closed, fetched]
    exact .of_le few_misses
  · rw [← State.failed_add_failed]
    exact (failed .configuration).add (failed .fetch)
  · intro m hm caller key n o ha
    exact outcome_of_answered run hm ha

end Run

/-- One round panics after the caller that started it has gone.  The caller of the next goes away
when it has ended, and the round is promoted.  The last still runs, and nobody waits for it. -/
theorem measurements_balance_abandoned :
    ∃ moves env, ∃ s : State Nat Nat Nat, ∃ events : List Metrics.Event,
      (system (fun _ => "\x7b\x7d") fun _ _ _ => True).Run moves env s ∧
      (events.filter fun e => e.cache = "users").Perm (measured (Note.metrics "users") moves) ∧
      let shown := Registry.recordAll {} events
      lookups moves = 5 ∧ shown.requested "users" "hit" + shown.requested "users" "miss" +
        shown.requested "users" "joined" = 5 ∧
      shown.fetched "users" = (shown.spans "users").length + 1 ∧ (shown.spans "users").length = 2 ∧
      shown.failed "users" "fetch" = 1 := by
  have path : (system (fun _ => "\x7b\x7d") fun _ _ _ => True : System (State Nat Nat Nat) _ _).Path
      .start .empty _ _ _ :=
    .of_replay [.look 0 7, .decide 0, .look 1 7, .drop 0,
      .finish 0 (.panicked (some "boom")), .settle 1, .look 2 8, .decide 2,
      .finish 1 (.returned (.ok
        { value := 5, object := 1, validity := .permanent, sensitive := false })),
      .drop 2, .look 3 8, .decide 3, .look 4 9, .decide 4, .drop 4] rfl
  let events : List Metrics.Event :=
    [.requests "users" "miss" 1, .fetches "users" 1, .requests "users" "joined" 1,
      .duration "users" 0, .failures "users" "fetch" 1, .requests "others" "hit" 1,
      .requests "users" "miss" 1, .fetches "users" 1, .duration "users" 0,
      .requests "users" "hit" 1, .requests "users" "miss" 1, .fetches "users" 1]
  have balance := measurements_balance ⟨_, path⟩ "users" (show (events.filter _).Perm _ from .refl _)
  obtain ⟨requests, -, -, spans, fetches, -, failures, -⟩ := balance
  have few : 5 < counterBound := by decide
  exact ⟨_, _, _, events, ⟨_, path⟩, .refl _, rfl, requests.2 few, fetches.2 few, spans,
    (failures .fetch).2 few⟩

end Cache
end SingleFlight
