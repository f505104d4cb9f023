import Mathlib.Algebra.GroupWithZero.Nat
import SingleFlight.Metrics
import SingleFlight.Proofs.Run

/-!
What is measured along a run, and what a registry shows of it.

`readings` picks out of many events what they say of one measurement.  A counter shows their `total`
as far as 64 bits hold it, the spans of a cache are those observed, and a gauge shows the last.  A
registry may be shared: `readings_perm` says that of the events of other caches nothing is seen, and
that the order in which those of one cache come in does not matter to a counter.
-/

namespace SingleFlight
namespace Metrics

namespace Event

/-- The cache that the event is about. -/
def cache : Event → String
  | requests cache _ _ => cache
  | fetches cache _ => cache
  | failures cache _ _ => cache
  | duration cache _ => cache
  | refreshes cache _ => cache
  | refreshFailures cache _ => cache
  | consecutiveFailures cache _ => cache

def requests? : Event → Option ((String × String) × Nat)
  | requests cache outcome n => some ((cache, outcome), n)
  | _ => none

def fetches? : Event → Option (String × Nat)
  | fetches cache n => some (cache, n)
  | _ => none

def failures? : Event → Option ((String × String) × Nat)
  | failures cache kind n => some ((cache, kind), n)
  | _ => none

def duration? : Event → Option (String × Nat)
  | duration cache elapsed => some (cache, elapsed)
  | _ => none

def consecutiveFailures? : Event → Option (String × Int)
  | consecutiveFailures cache n => some (cache, n)
  | _ => none

variable {e : Event} {name : String} {n : Nat}

theorem cache_of_requests? {outcome : String} (h : e.requests? = some ((name, outcome), n)) :
    e.cache = name := by
  cases e <;> simp_all [requests?, cache]

theorem cache_of_fetches? (h : e.fetches? = some (name, n)) : e.cache = name := by
  cases e <;> simp_all [fetches?, cache]

theorem cache_of_failures? {kind : String} (h : e.failures? = some ((name, kind), n)) :
    e.cache = name := by
  cases e <;> simp_all [failures?, cache]

theorem cache_of_duration? (h : e.duration? = some (name, n)) : e.cache = name := by
  cases e <;> simp_all [duration?, cache]

end Event

section Readings

variable {κ ν : Type} [DecidableEq κ] {f : Event → Option (κ × ν)} {k : κ}

/-- What the events say under the key. -/
def readings (f : Event → Option (κ × ν)) (k : κ) (events : List Event) : List ν :=
  events.filterMap fun e => ((f e).filter fun row => row.1 = k).map Prod.snd

theorem readings_append (es fs : List Event) :
    readings f k (es ++ fs) = readings f k es ++ readings f k fs := List.filterMap_append

theorem readings_cons (e : Event) (es : List Event) :
    readings f k (e :: es) = readings f k [e] ++ readings f k es := readings_append [e] es

theorem readings_singleton {e : Event} {k' : κ} {v : ν} (h : f e = some (k', v)) :
    readings f k [e] = if k' = k then [v] else [] := by
  by_cases hk : k' = k
  · simp [readings, h, hk]
  · simp [readings, h, hk]

theorem readings_of_none {e : Event} (h : f e = none) : readings f k [e] = [] := by
  simp [readings, h]

/-- Of the events of other caches nothing is read. -/
theorem readings_filter {name : String} (own : ∀ e v, f e = some (k, v) → e.cache = name)
    (es : List Event) : readings f k (es.filter fun e => e.cache = name) = readings f k es := by
  induction es with
  | nil => rfl
  | cons e es ih =>
    by_cases hc : e.cache = name
    · rw [List.filter_cons_of_pos (by simpa using hc), readings_cons, ih, ← readings_cons]
    · have unread : readings f k [e] = [] := by
        cases hf : f e with
        | none => exact readings_of_none hf
        | some row =>
          obtain ⟨k', v⟩ := row
          rw [readings_singleton hf, if_neg]
          rintro rfl
          exact hc (own e v hf)
      rw [List.filter_cons_of_neg (by simpa using hc), readings_cons, ih, unread, List.nil_append]

theorem readings_perm {name : String} (own : ∀ e v, f e = some (k, v) → e.cache = name)
    {es fs : List Event} (h : (es.filter fun e => e.cache = name).Perm fs) :
    (readings f k es).Perm (readings f k fs) := by
  rw [← readings_filter own es]
  exact h.filterMap _

/-- What the events add up to under the key. -/
def total (f : Event → Option (κ × Nat)) (k : κ) (events : List Event) : Nat :=
  (readings f k events).sum

theorem total_append (f : Event → Option (κ × Nat)) (es fs : List Event) :
    total f k (es ++ fs) = total f k es + total f k fs := by
  unfold total
  rw [readings_append, List.sum_append]

theorem total_cons (f : Event → Option (κ × Nat)) (e : Event) (es : List Event) :
    total f k (e :: es) = total f k [e] + total f k es := total_append f [e] es

theorem total_singleton {f : Event → Option (κ × Nat)} {e : Event} {k' : κ} {n : Nat}
    (h : f e = some (k', n)) : total f k [e] = if k' = k then n else 0 := by
  unfold total
  rw [readings_singleton h]
  split <;> rfl

theorem total_of_none {f : Event → Option (κ × Nat)} {e : Event} (h : f e = none) :
    total f k [e] = 0 := by
  unfold total
  rw [readings_of_none h, List.sum_nil]

theorem total_perm {f : Event → Option (κ × Nat)} {name : String}
    (own : ∀ e v, f e = some (k, v) → e.cache = name) {es fs : List Event}
    (h : (es.filter fun e => e.cache = name).Perm fs) : total f k es = total f k fs :=
  (readings_perm own h).sum_nat

end Readings

/-! ## Registries -/

section Registry

variable {κ : Type} [DecidableEq κ]

theorem getD_bump (t : Table κ Nat) (k k' : κ) (n : Nat) :
    ((bump t k n).get? k').getD 0 =
      if k = k' then ((t.get? k').getD 0 + n) % counterBound else (t.get? k').getD 0 := by
  unfold bump
  rw [Table.get?_insert]
  by_cases hk : k = k'
  · rw [if_pos hk, if_pos hk, hk]
    rfl
  · rw [if_neg hk, if_neg hk]

/-- A counter shows the sum of what it was bumped by. -/
theorem Registry.counter_recordAll (f : Event → Option (κ × Nat)) (counters : Registry → Table κ Nat)
    (step : ∀ r e, counters (r.record e) = match f e with
      | some (k, n) => bump (counters r) k n
      | none => counters r)
    (k : κ) (es : List Event) : ∀ r : Registry, ((counters r).get? k).getD 0 < counterBound →
      ((counters (r.recordAll es)).get? k).getD 0 =
        (((counters r).get? k).getD 0 + total f k es) % counterBound := by
  induction es with
  | nil =>
    intro r small
    exact (Nat.mod_eq_of_lt small).symm
  | cons e es ih =>
    intro r small
    show ((counters ((r.record e).recordAll es)).get? k).getD 0 = _
    rw [total_cons]
    cases hf : f e with
    | none =>
      have same : counters (r.record e) = counters r := by rw [step, hf]
      rw [ih (r.record e) (same ▸ small), same, total_of_none hf, Nat.zero_add]
    | some row =>
      obtain ⟨k', n⟩ := row
      have bumped : counters (r.record e) = bump (counters r) k' n := by rw [step, hf]
      have shown := getD_bump (counters r) k' k n
      rw [← bumped] at shown
      rw [total_singleton hf]
      by_cases hk : k' = k
      · rw [if_pos hk] at shown ⊢
        have bounded : ((counters (r.record e)).get? k).getD 0 < counterBound := by
          rw [shown]
          exact Nat.mod_lt _ (by decide)
        rw [ih (r.record e) bounded, shown, Nat.mod_add_mod, Nat.add_assoc]
      · rw [if_neg hk] at shown ⊢
        rw [ih (r.record e) (shown ▸ small), shown, Nat.zero_add]

/-- How many requests of the cache are shown to have come out so. -/
def Registry.requested (r : Registry) (name outcome : String) : Nat :=
  (r.requests.get? (name, outcome)).getD 0

def Registry.fetched (r : Registry) (name : String) : Nat := (r.fetches.get? name).getD 0

/-- How many fetches of the cache are shown to have failed so. -/
def Registry.failed (r : Registry) (name kind : String) : Nat := (r.failures.get? (name, kind)).getD 0

/-- How long the fetches of the cache took. -/
def Registry.spans (r : Registry) (name : String) : List Nat := (r.durations.get? name).getD []

variable (es : List Event) (name : String)

theorem Registry.requested_recordAll (outcome : String) :
    (Registry.recordAll {} es).requested name outcome =
      total Event.requests? (name, outcome) es % counterBound := by
  unfold requested
  rw [counter_recordAll Event.requests? Registry.requests (fun r e => by cases e <;> rfl) _ es {}
    (Nat.two_pow_pos 64)]
  exact congrArg (· % counterBound) (Nat.zero_add _)

theorem Registry.fetched_recordAll :
    (Registry.recordAll {} es).fetched name =
      total Event.fetches? name es % counterBound := by
  unfold fetched
  rw [counter_recordAll Event.fetches? Registry.fetches (fun r e => by cases e <;> rfl) _ es {}
    (Nat.two_pow_pos 64)]
  exact congrArg (· % counterBound) (Nat.zero_add _)

theorem Registry.failed_recordAll (kind : String) :
    (Registry.recordAll {} es).failed name kind =
      total Event.failures? (name, kind) es % counterBound := by
  unfold failed
  rw [counter_recordAll Event.failures? Registry.failures (fun r e => by cases e <;> rfl) _ es {}
    (Nat.two_pow_pos 64)]
  exact congrArg (· % counterBound) (Nat.zero_add _)

/-- All spans are kept, in order. -/
theorem Registry.spans_recordAll : ∀ r : Registry,
    (r.recordAll es).spans name = r.spans name ++ readings Event.duration? name es := by
  induction es with
  | nil =>
    intro r
    exact (List.append_nil _).symm
  | cons e es ih =>
    intro r
    show ((r.record e).recordAll es).spans name = _
    rw [ih, readings_cons, ← List.append_assoc]
    refine congrArg (· ++ readings Event.duration? name es) ?_
    cases e with
    | duration cache elapsed =>
      rw [readings_singleton rfl]
      show ((r.durations.insert cache _).get? name).getD [] = _
      rw [Table.get?_insert]
      by_cases hc : cache = name
      · rw [if_pos hc, if_pos hc, hc]
        rfl
      · rw [if_neg hc, if_neg hc, List.append_nil]
        rfl
    | requests _ _ _ | fetches _ _ | failures _ _ _ | refreshes _ _ | refreshFailures _ _
    | consecutiveFailures _ _ => rw [readings_of_none rfl, List.append_nil]; rfl

/-- A gauge shows what it was last set to. -/
theorem Registry.consecutiveFailures_recordAll : ∀ r : Registry,
    (r.recordAll es).consecutiveFailures.get? name =
      (readings Event.consecutiveFailures? name es).getLast?.or
        (r.consecutiveFailures.get? name) := by
  induction es with
  | nil =>
    intro r
    rfl
  | cons e es ih =>
    intro r
    show ((r.record e).recordAll es).consecutiveFailures.get? name = _
    rw [ih, readings_cons, List.getLast?_append, Option.or_assoc]
    refine congrArg (Option.or _) ?_
    cases e with
    | consecutiveFailures cache n =>
      rw [readings_singleton rfl]
      show (r.consecutiveFailures.insert cache n).get? name = _
      rw [Table.get?_insert]
      by_cases hc : cache = name
      · rw [if_pos hc, if_pos hc]
        rfl
      · rw [if_neg hc, if_neg hc]
        rfl
    | requests _ _ _ | fetches _ _ | failures _ _ _ | duration _ _ | refreshes _ _
    | refreshFailures _ _ => rw [readings_of_none rfl]; rfl

end Registry

/-! ## Runs -/

/-- All that is measured on the way, in order. -/
def measured {σ ε ν : Type} (metrics : ν → List Event) (moves : List (Move σ ε ν)) : List Event :=
  moves.flatMap fun m => m.notes.flatMap metrics

theorem measured_concat {σ ε ν : Type} (metrics : ν → List Event) (moves : List (Move σ ε ν))
    (m : Move σ ε ν) :
    measured metrics (moves ++ [m]) = measured metrics moves ++ m.notes.flatMap metrics := by
  simp [measured]

end Metrics
end SingleFlight
