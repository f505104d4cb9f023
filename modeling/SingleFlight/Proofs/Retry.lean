import Mathlib.Order.Bounds.Basic
import SingleFlight.Retry

/-!
How often an operation is called, and when.

`Retry.run` stops at the first call whose outcome no repetition can change, or at the last one that
the policy allows.  `Retry.began` and `Retry.call` follow the calls one by one, whether the run
reaches them or not, and `Retry.runFrom_calls` says how far the run goes along them.
`Retry.loop` is the same loop with its counter in 32 bits.
-/

namespace SingleFlight

/-- A configuration error of ours, under any number of contexts. -/
def Failure.OfConfiguration (f : Failure) : Prop :=
  ∃ (texts : List String) (e : ResourceError), e.kind = .configuration ∧
    f = texts.foldr (fun text g => g.context text) (.ofResourceError e)

theorem Failure.foldr_context (texts : List String) (g : Failure) :
    texts.foldr (fun text g => g.context text) g =
      { contexts := texts ++ g.contexts, root := g.root } := by
  induction texts with
  | nil => rfl
  | cons text texts ih => rw [List.foldr_cons, ih]; rfl

theorem Failure.ofConfiguration_iff {f : Failure} :
    f.OfConfiguration ↔ f.isConfiguration = true := by
  constructor
  · rintro ⟨texts, e, he, rfl⟩
    rw [Failure.foldr_context]
    simp [Failure.isConfiguration, Failure.resourceError?, Failure.ofResourceError,
      ResourceError.isConfiguration, he]
  · intro h
    obtain ⟨contexts, root⟩ := f
    cases root with
    | plain text => simp [Failure.isConfiguration, Failure.resourceError?] at h
    | resource e =>
      refine ⟨contexts, e, ?_, ?_⟩
      · simpa [Failure.isConfiguration, Failure.resourceError?,
          ResourceError.isConfiguration] using h
      · rw [Failure.foldr_context]; simp [Failure.ofResourceError]

theorem Backoff.dvd_delay (b : Backoff) (n : Nat) : 1000000 ∣ b.delay n := ⟨b.millis n, by
  unfold Backoff.delay Span.ofMillis; omega⟩

theorem Instant.tick_of_dvd {due : Nat} (h : 1000000 ∣ due) : Instant.tick due = due := by
  unfold Instant.tick; omega

namespace Retry

variable {α : Type}

/-- No repetition changes it: a value, or a configuration error. -/
def Settled : Except Failure α → Prop
  | .ok _ => True
  | .error failure => failure.OfConfiguration

section Calls

variable (p : Policy) (op : Operation α) (now : Nat)

/-- The instant at which call `k + 1` begins, once each of the `k` calls before it has been found
worth a repetition. -/
def began : Nat → Nat
  | 0 => now
  | k + 1 => Instant.tick ((op (k + 1) (began k)).1 + p.backoff.delay (k + 1))

/-- Call `k`, counted from one: the instant at which it ends, and its outcome. -/
def call (k : Nat) : Nat × Except Failure α := op k (began p op now (k - 1))

/-- No call is made after call `k`: its outcome is settled, or it is the last one allowed. -/
def Over (attempts k : Nat) : Prop := Settled (call p op now k).2 ∨ k = max attempts 1

theorem began_succ (k : Nat) :
    began p op now (k + 1) =
      Instant.tick ((call p op now (k + 1)).1 + p.backoff.delay (k + 1)) := rfl

/-- From a call that ends on a tick the wait is exact: delays are whole milliseconds. -/
theorem began_of_dvd {k : Nat} (hk : 1 ≤ k) (h : 1000000 ∣ (call p op now k).1) :
    began p op now k = (call p op now k).1 + p.backoff.delay k := by
  obtain ⟨k, rfl⟩ := Nat.exists_eq_add_of_le' hk
  rw [began_succ, Instant.tick_of_dvd (Nat.dvd_add h (p.backoff.dvd_delay _))]

/-- Where the run ends that begins with call `i + 1` and may repeat it `spare` times: after `m`
repetitions, none of them without need, and fewer than `spare` only for a settled outcome. -/
theorem runFrom_calls (spare i : Nat) :
    ∃ m, m ≤ spare ∧
      (runFrom p op (i + 1) (began p op now i) spare).calls =
        (List.range' i (m + 1)).map (began p op now) ∧
      ((runFrom p op (i + 1) (began p op now i) spare).finish,
        (runFrom p op (i + 1) (began p op now i) spare).result) = call p op now (i + m + 1) ∧
      (∀ k, i < k → k ≤ i + m → ¬ Settled (call p op now k).2) ∧
      (m < spare → Settled (call p op now (i + m + 1)).2) := by
  have hcall : call p op now (i + 1) = op (i + 1) (began p op now i) := rfl
  induction spare generalizing i with
  | zero => exact ⟨0, le_rfl, rfl, rfl, by omega, by omega⟩
  | succ spare ih =>
    rw [runFrom]
    split
    next finish value heq =>
      refine ⟨0, Nat.zero_le _, rfl, (hcall.trans heq).symm, by omega, fun _ => ?_⟩
      rw [Nat.add_zero, hcall, heq]; trivial
    next finish failure heq =>
      split
      next hconf =>
        refine ⟨0, Nat.zero_le _, rfl, (hcall.trans heq).symm, by omega, fun _ => ?_⟩
        rw [Nat.add_zero, hcall, heq]
        exact Failure.ofConfiguration_iff.mpr hconf
      next hconf =>
        have hnext : Instant.tick (finish + p.backoff.delay (i + 1)) = began p op now (i + 1) := by
          rw [began_succ, hcall, heq]
        obtain ⟨m, hm, hcalls, hlast, hbefore, hstop⟩ := ih (i + 1) rfl
        rw [hnext]
        have hindex : i + (m + 1) + 1 = i + 1 + m + 1 := by omega
        refine ⟨m + 1, by omega, ?_, by rw [hindex]; exact hlast, ?_, ?_⟩
        · rw [List.range'_succ, List.map_cons, ← hcalls]
        · intro k hk hkm
          rcases Nat.eq_or_lt_of_le (Nat.succ_le_of_lt hk) with rfl | hk
          · rw [Nat.succ_eq_add_one, hcall, heq]
            exact fun h => hconf (Failure.ofConfiguration_iff.mp h)
          · exact hbefore k hk (by omega)
        · rw [hindex]
          exact fun h => hstop (by omega)

end Calls

/-- Below another number the counter is not the greatest one, so that to count on does not wrap. -/
theorem toNat_succ_of_lt {m n : UInt32} (h : m < n) : (m + 1).toNat = m.toNat + 1 := by
  have hlt := UInt32.lt_iff_toNat_lt.mp h
  have hsize := n.toNat_lt
  rw [UInt32.toNat_add, UInt32.toNat_one]
  omega

/-- The loop as a machine runs it, with its counter in 32 bits. -/
def loop (attempts : UInt32) (b : Backoff) (op : Operation α) (attempt : UInt32) (now : Nat) :
    Run α :=
  match op attempt.toNat now with
  | (finish, .ok value) => { calls := [now], finish := finish, result := .ok value, notes := [] }
  | (finish, .error failure) =>
    if attempt < attempts ∧ failure.isConfiguration = false then
      let rest := loop attempts b op (attempt + 1)
        (Instant.tick (finish + b.delay attempt.toNat))
      { rest with
        calls := now :: rest.calls
        notes := .failed attempt.toNat attempts.toNat failure :: rest.notes }
    else
      { calls := [now], finish := finish, result := .error failure,
        notes := [.gaveUp attempt.toNat failure] }
termination_by attempts.toNat - attempt.toNat
decreasing_by
  rename_i below
  have hlt := UInt32.lt_iff_toNat_lt.mp below.1
  rw [toNat_succ_of_lt below.1]
  omega

theorem loop_eq_runFrom (attempts : UInt32) (b : Backoff) (op : Operation α) (attempt : UInt32)
    (now : Nat) :
    loop attempts b op attempt now =
      runFrom ⟨attempts.toNat, b⟩ op attempt.toNat now (attempts.toNat - attempt.toNat) := by
  fun_induction loop with
  | case1 attempt now finish value heq =>
    cases attempts.toNat - attempt.toNat <;> simp [runFrom, heq]
  | case2 attempt now finish failure heq h rest ih =>
    have hlt := UInt32.lt_iff_toNat_lt.mp h.1
    have hsucc := toNat_succ_of_lt h.1
    have hspare : attempts.toNat - attempt.toNat =
        attempts.toNat - (attempt + 1).toNat + 1 := by omega
    rw [hspare, runFrom, heq]
    simp only [h.2, Bool.false_eq_true, if_false]
    rw [← hsucc, ← ih]
  | case3 attempt now finish failure heq h =>
    rw [not_and, Bool.not_eq_false] at h
    cases hspare : attempts.toNat - attempt.toNat with
    | zero => simp [runFrom, heq]
    | succ spare =>
      have hlt : attempt < attempts := UInt32.lt_iff_toNat_lt.mpr (by omega)
      simp [runFrom, heq, h hlt]

theorem loop_eq_run (attempts : UInt32) (b : Backoff) (op : Operation α) (now : Nat) :
    loop attempts b op 1 now = run ⟨attempts.toNat, b⟩ op now := loop_eq_runFrom ..

/-- Every policy allows what the larger of its attempts and one allows. -/
theorem max_attempts {p : Policy} {a : Nat} {b : Backoff} (hp : p = .make a b ∨ p = ⟨a, b⟩) :
    max p.attempts 1 = max a 1 ∧ p.backoff = b := by
  rcases hp with rfl | rfl
  · exact ⟨by simp only [Policy.make]; omega, rfl⟩
  · exact ⟨rfl, rfl⟩

/-- The operation is called up to the first call after which no other is made, and that call is
the run's end: its outcome is handed on as it is, at the instant at which the call ends.  Each
wait is the one that the backoff gives for the call before it, and the counter fits 32 bits. -/
theorem run_exact (a : UInt32) (b : Backoff) {p : Policy}
    (hp : p = .make a.toNat b ∨ p = ⟨a.toNat, b⟩) (op : Operation α) (now : Nat) :
    ∃ j, IsLeast {k | 1 ≤ k ∧ Over p op now a.toNat k} j ∧ j ≤ max a.toNat 1 ∧
      (run p op now).calls = (List.range j).map (began p op now) ∧
      (∀ k, 1 ≤ k → k < j →
        began p op now k = Instant.tick ((call p op now k).1 + b.delay k) ∧
        (1000000 ∣ (call p op now k).1 →
          began p op now k = (call p op now k).1 + b.delay k)) ∧
      (run p op now).finish = (call p op now j).1 ∧
      (run p op now).result = (call p op now j).2 ∧
      (∀ k, k < j → k + 1 < UInt32.size) ∧
      loop (UInt32.ofNat p.attempts) b op 1 now = run p op now := by
  obtain ⟨hmax, rfl⟩ := max_attempts hp
  obtain ⟨m, hm, hcalls, hlast, hbefore, hstop⟩ := runFrom_calls p op now (p.attempts - 1) 0
  simp only [Nat.zero_add] at hcalls hlast hbefore hstop
  have hallowed : m + 1 ≤ max a.toNat 1 := by omega
  have hsize : max a.toNat 1 < UInt32.size := by
    have := a.toNat_lt
    simp only [UInt32.size]
    omega
  refine ⟨m + 1, ⟨⟨Nat.le_add_left 1 m, ?_⟩, ?_⟩, hallowed, ?_, ?_, congrArg Prod.fst hlast,
    congrArg Prod.snd hlast, ?_, ?_⟩
  · rcases Nat.lt_or_ge m (p.attempts - 1) with h | h
    · exact .inl (hstop h)
    · exact .inr (by omega)
  · rintro k ⟨hk, hsettled | hk'⟩
    · by_contra hkm
      exact hbefore k (by omega) (by omega) hsettled
    · omega
  · rw [List.range_eq_range']; exact hcalls
  · intro k hk _
    obtain ⟨k, rfl⟩ := Nat.exists_eq_add_of_le' hk
    exact ⟨began_succ p op now k, began_of_dvd p op now hk⟩
  · omega
  · have hattempts : (UInt32.ofNat p.attempts).toNat = p.attempts :=
      UInt32.toNat_ofNat_of_lt' (by omega)
    rw [loop_eq_run, hattempts]

/-- Fails for the network first, and then for its settings. -/
def misconfigured : Operation Unit := fun k t =>
  (t + 1000000, .error (if k = 1 then .plain "connection reset"
    else (Failure.ofResourceError (.configuration "no client secret")).context "token request"))

/-- Five attempts are allowed, and two are made. -/
theorem run_exact_misconfigured :
    (run (.make 5 ⟨100, 250⟩) misconfigured 0).calls = [0, 101000000] ∧
      (run (.make 5 ⟨100, 250⟩) misconfigured 0).finish = 102000000 ∧
      (run (.make 5 ⟨100, 250⟩) misconfigured 0).result = .error
        { contexts := ["token request"], root := .resource (.configuration "no client secret") } := by
  obtain ⟨j, hleast, -, hcalls, -, hfinish, hresult, -⟩ :=
    run_exact 5 ⟨100, 250⟩ (.inl rfl) misconfigured 0
  have hj : j = 2 := by
    refine hleast.unique ⟨⟨by decide, .inl ⟨["token request"], .configuration "no client secret",
      rfl, rfl⟩⟩, ?_⟩
    rintro k ⟨hk, hover⟩
    by_contra hlt
    obtain rfl : k = 1 := by omega
    rcases hover with hsettled | hlast
    · exact absurd (Failure.ofConfiguration_iff.mp hsettled) (by decide)
    · exact absurd hlast (by decide)
  subst hj
  exact ⟨hcalls, hfinish, hresult⟩

end Retry
end SingleFlight
