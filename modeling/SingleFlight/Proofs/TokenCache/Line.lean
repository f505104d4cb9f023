import SingleFlight.Proofs.TokenCache.Installs

/-!
The line for the lock.

Whoever asks for the lock joins the end of a line, and whoever is at its head has the lock.  A step
lets the line be, lets somebody join it, or lets somebody leave it (`Shifts`), and so the line
always holds those who ask, each once (`InLine`).

A reader keeps the lock while it fetches, and it fetches only where no token lives.  Nobody else can
install a token in the meantime, so none comes to life behind its back (`InLine.fetching`).
-/

namespace SingleFlight
namespace TokenCache

namespace State

/-- Who has the lock, and after it those who wait for it. -/
def line (s : State) : List Agent := s.holder.toList ++ s.queue

section Line

variable {s : State} {a b : Agent} {n : Nat}

theorem line_of_holder (h : s.holder = some a) : s.line = a :: s.queue := by
  rw [line, h]
  rfl

theorem line_unlock (s : State) : s.unlock.line = s.queue := by
  unfold unlock line
  cases s.queue <;> rfl

theorem line_leave (s : State) (n : Nat) : (s.leave n).line = s.queue := line_unlock _

theorem line_retire (s : State) (t : Nat) : (s.retire t).line = s.queue := line_unlock _

theorem line_lock (front : s.holder = none → s.queue = []) (a : Agent) :
    (s.lock a).line = s.line ++ [a] := by
  unfold lock
  split
  · rename_i free
    rw [line, line, free, front free]
    rfl
  · rename_i b taken
    rw [line, line, List.append_assoc]

theorem queue_arm (s : State) (now firesAt : Nat) : (s.arm now firesAt).1.queue = s.queue := by
  rw [arm_fst]

theorem line_cancel (distinct : s.line.Nodup) (n : Nat) :
    (s.cancel n).line = s.line.erase (.caller n) := by
  have others : s.queue.Nodup := (List.nodup_append.1 distinct).2.1
  unfold cancel
  dsimp only
  split
  · rename_i holds
    have head := line_of_holder holds
    rw [line_unlock, head, List.erase_cons_head]
    refine List.filter_eq_self.2 fun a ha => ?_
    rw [head] at distinct
    have hne : a ≠ .caller n := by
      rintro rfl
      exact (List.nodup_cons.1 distinct).1 ha
    simpa using hne
  · rename_i other
    have away : Agent.caller n ∉ s.holder.toList := by
      intro hm
      exact other (Option.mem_toList.1 hm)
    rw [line, line, List.erase_append_right _ away, others.erase_eq_filter]
    congr 1
    refine List.filter_congr fun a _ => ?_
    by_cases h : a = .caller n <;> simp [h]

end Line

/-! ## Who asks -/

section Asks

variable {s : State} {a : Agent} {n t : Nat}

theorem asks_erase_caller (s : State) (n : Nat) (a : Agent) :
    ({ s with callers := s.callers.erase n } : State).Asks a ↔ a ≠ .caller n ∧ s.Asks a := by
  cases a with
  | caller m =>
    simp only [Asks, Table.get?_erase]
    by_cases h : n = m <;> simp [h, eq_comm]
  | refresh t => simp [Asks]

theorem asks_erase_task (s : State) (t : Nat) (a : Agent) :
    ({ s with tasks := s.tasks.erase t } : State).Asks a ↔ a ≠ .refresh t ∧ s.Asks a := by
  cases a with
  | caller m => simp [Asks]
  | refresh t' =>
    simp only [Asks, Table.get?_erase]
    by_cases h : t = t' <;> simp [h, eq_comm]

theorem asks_insert_caller (s : State) (n : Nat) (stage : CallerStage) (a : Agent) :
    ({ s with callers := s.callers.insert n stage } : State).Asks a ↔ s.Asks a ∨ a = .caller n := by
  cases a with
  | caller m =>
    simp only [Asks, Table.get?_insert]
    by_cases h : n = m <;> simp [h, eq_comm]
  | refresh t => simp [Asks]

theorem asks_insert_task (idle : ¬ s.Asks (.refresh t)) {task : Task}
    (h : ∀ round outcome, task ≠ .returned round outcome) (a : Agent) :
    ({ s with tasks := s.tasks.insert t task } : State).Asks a ↔ s.Asks a := by
  cases a with
  | caller m => simp [Asks]
  | refresh t' =>
    simp only [Asks, Table.get?_insert]
    by_cases ht : t = t'
    · subst ht
      simp only [if_true, Option.some.injEq, h, exists_false, false_iff]
      exact idle
    · simp [ht]

theorem asks_insert_returned (s : State) (t round : Nat) (o : Outcome (Resource Token))
    (a : Agent) :
    ({ s with tasks := s.tasks.insert t (.returned round o) } : State).Asks a ↔
      s.Asks a ∨ a = .refresh t := by
  cases a with
  | caller m => simp [Asks]
  | refresh t' =>
    simp only [Asks, Table.get?_insert]
    by_cases ht : t = t' <;> simp [ht, eq_comm]

theorem asks_arm (unused : s.tasks.get? s.nextTimer = none) (now firesAt : Nat) (a : Agent) :
    (s.arm now firesAt).1.Asks a ↔ s.Asks a := by
  rcases arm_cases s now firesAt with ⟨-, eq⟩ | ⟨-, eq⟩
  · rw [eq]
    refine asks_insert_task ?_ (fun _ _ h => by cases h) a
    rintro ⟨round, outcome, h⟩
    rw [unused] at h
    cases h
  · rw [eq]

theorem asks_install (unused : s.tasks.get? s.nextTimer = none) (now : Nat) (h : Held)
    (a : Agent) : (s.install now h).1.Asks a ↔ s.Asks a :=
  asks_arm (s := { s with
    held := some h
    published := some h.token
    publications := s.publications + 1
    failures := 0
    lastError := none }) unused now h.refreshAt a

end Asks
end State

open State

/-- Those who ask for the lock stand in line for it, each once.  A reader that fetches has the lock,
and no token lives. -/
structure InLine (now : Nat) (s : State) : Prop where
  distinct : s.line.Nodup
  asks : ∀ a, a ∈ s.line ↔ s.Asks a
  front : s.holder = none → s.queue = []
  fetching : ∀ n, s.callers.get? n = some .fetching →
    s.holder = some (.caller n) ∧ s.usable? now = none

/-- The line stays, or somebody joins it at its end, or somebody leaves it. -/
inductive Shifts (s s' : State) : Prop where
  | stays : s'.line = s.line → (∀ a, s'.Asks a ↔ s.Asks a) → Shifts s s'
  | joins (a : Agent) : s'.line = s.line ++ [a] → ¬ s.Asks a →
      (∀ b, s'.Asks b ↔ s.Asks b ∨ b = a) → Shifts s s'
  | leaves (a : Agent) : s'.line = s.line.erase a → (∀ b, s'.Asks b ↔ b ≠ a ∧ s.Asks b) →
      Shifts s s'

theorem Shifts.in_line {s s' : State} (shifts : Shifts s s') (distinct : s.line.Nodup)
    (asks : ∀ a, a ∈ s.line ↔ s.Asks a) : s'.line.Nodup ∧ ∀ a, a ∈ s'.line ↔ s'.Asks a := by
  cases shifts with
  | stays line same =>
    rw [line]
    exact ⟨distinct, fun a => (asks a).trans (same a).symm⟩
  | joins a line new more =>
    have away : a ∉ s.line := fun h => new ((asks a).1 h)
    rw [line]
    refine ⟨List.nodup_append.2 ⟨distinct, by simp, ?_⟩, fun b => ?_⟩
    · intro b hb c hc
      obtain rfl := List.mem_singleton.1 hc
      rintro rfl
      exact away hb
    · rw [List.mem_append, List.mem_singleton, asks, more]
  | leaves a line fewer =>
    rw [line]
    exact ⟨distinct.erase a, fun b => by rw [distinct.mem_erase_iff, asks, fewer]⟩

theorem Shifts.of_holder {s s' : State} {a : Agent} (holds : s.holder = some a)
    (line : s'.line = s.queue) (fewer : ∀ b, s'.Asks b ↔ b ≠ a ∧ s.Asks b) : Shifts s s' := by
  refine .leaves a ?_ fewer
  rw [line, line_of_holder holds, List.erase_cons_head]

/-- As long as anybody asks for the lock somebody has it. -/
theorem InLine.taken {now : Nat} {s : State} {a : Agent} (h : InLine now s) (asks : s.Asks a) :
    ∃ b, s.holder = some b := by
  refine Option.ne_none_iff_exists'.1 fun free => ?_
  have there := (h.asks a).2 asks
  rw [line, free, h.front free] at there
  cases there

section Step

variable {cfg : Config} {env env' : Surroundings} {s s' : State} {e : Event} {notes : List Note}
  {now n : Nat}

/-- A reader that the keyed cache answers has the lock. -/
theorem InLine.answered (h : InLine now s) (orderly : Orderly s)
    {ke : Cache.Event Agent ParameterSet Token} {k : Cache.State Agent ParameterSet Token}
    {known : List (Cache.Note Agent ParameterSet Token)} {key : ParameterSet} {round : Nat}
    {o : Outcome (Resource Token)} (permits : s.Permits cfg ke)
    (t : Cache.Transition ParameterSet.text env s.keyed (arriving cfg env.now ke) env' k known)
    (ha : .answered (.caller n) key round o ∈ known) : s.holder = some (.caller n) :=
  (h.fetching n (mayRequest_caller.1 (orderly.answered permits t ha))).1

theorem Transition.shifts (t : Transition cfg env s e env' s' notes) (h : InLine env.now s)
    (orderly : Orderly s) (unused : s.tasks.get? s.nextTimer = none) : Shifts s s' := by
  cases t with
  | keyed _ _ _ | addHandle _ | dropHandle _ => exact .stays rfl fun a => by cases a <;> rfl
  | @enter n wish new _ =>
    refine .joins (.caller n) (line_lock (by exact h.front) _) ?_ fun a => ?_
    · rintro ⟨stage, there⟩
      rw [new] at there
      cases there
    · rw [lock_eq]
      exact asks_insert_caller s n (.queued wish) a
  | serve acts _ | keep acts _ | idle acts _ _ | stop acts =>
    exact .of_holder acts.holds (line_leave _ _) (asks_erase_caller s _)
  | resume acts _ _ =>
    refine .of_holder acts.holds ?_ fun a => ?_
    · rw [line_leave, queue_arm]
    · exact (asks_erase_caller _ _ a).trans
        (and_congr_right fun _ => asks_arm (s := { s with enabled := true }) unused _ _ a)
  | @fetch n acts _ =>
    refine .stays rfl fun a => (asks_insert_caller s n .fetching a).trans ?_
    refine or_iff_left_of_imp ?_
    rintro rfl
    exact ⟨_, acts.queued⟩
  | discard returns _ | giveUp returns _ _ =>
    exact .of_holder returns.holds (line_retire _ _) (asks_erase_task s _)
  | refresh returns _ =>
    refine .of_holder returns.holds ?_ fun a => ?_
    · rw [line_retire, install_fst, queue_arm]
    · exact (asks_erase_task _ _ a).trans
        (and_congr_right fun _ => asks_install (s := { s with timer := none }) unused _ _ a)
  | @retry _ _ error _ _ returns _ _ _ _ =>
    refine .of_holder returns.holds ?_ fun a => ?_
    · rw [line_retire, queue_arm]
      rfl
    · exact (asks_erase_task _ _ a).trans
        (and_congr_right fun _ => asks_arm (s := s.noteFailure error) unused _ _ a)
  | @fetched _ _ k _ _ _ _ _ permits t ha =>
    refine .of_holder (h.answered orderly permits t ha) ?_ fun a => ?_
    · rw [line_leave, install_fst, queue_arm]
    · exact (asks_erase_caller _ _ a).trans
        (and_congr_right fun _ => asks_install (s := { s with keyed := k }) unused _ _ a)
  | failed permits t ha =>
    exact .of_holder (h.answered orderly permits t ha) (line_leave _ _) (asks_erase_caller s _)
  | @returned _ _ _ _ t _ round o permits step ha =>
    refine .joins (.refresh t) (line_lock (by exact h.front) _) ?_ fun a => ?_
    · rintro ⟨round', outcome, there⟩
      rw [mayRequest_refresh.1 (orderly.answered permits step ha)] at there
      cases there
    · rw [lock_eq]
      exact asks_insert_returned s t round o a
  | @fire t firesAt sleeping _ _ =>
    refine .stays rfl (asks_insert_task ?_ (fun _ _ h => by cases h))
    rintro ⟨round, outcome, there⟩
    rw [sleeping] at there
    cases there
  | @quit t firesAt sleeping _ =>
    refine .stays rfl fun a => (asks_erase_task s t a).trans (and_iff_right_of_imp ?_)
    rintro there rfl
    obtain ⟨round, outcome, there⟩ := there
    rw [sleeping] at there
    cases there
  | @cancel n _ _ =>
    refine .leaves (.caller n) (line_cancel h.distinct n) fun a => ?_
    rw [cancel_eq]
    exact asks_erase_caller s n a

theorem Brings.holds {a : Agent} {round : Nat} {r : Resource Token} (b : Brings cfg env s a round r)
    (h : InLine now s) (orderly : Orderly s) : s.holder = some a := by
  cases b with
  | returned returns _ => exact returns.holds
  | answered permits t ha => exact h.answered orderly permits t ha

theorem front_unlock (s : State) (h : s.unlock.holder = none) : s.unlock.queue = [] := by
  have empty : s.queue.head? = none := h
  have tail : s.unlock.queue = s.queue.tail := rfl
  rw [tail, List.head?_eq_none_iff.1 empty]
  rfl

theorem holder_lock_ne_none (s : State) (a : Agent) : (s.lock a).holder ≠ none := by
  unfold lock
  split
  · nofun
  · rename_i taken
    rw [taken]
    nofun

theorem Transition.front (t : Transition cfg env s e env' s' notes)
    (h : s.holder = none → s.queue = []) : s'.holder = none → s'.queue = [] := by
  cases t with
  | fetch _ _ | keyed _ _ _ | fire _ _ _ | quit _ _ | addHandle _ | dropHandle _ => exact h
  | enter _ _ | returned _ _ _ => exact fun free => absurd free (holder_lock_ne_none _ _)
  | serve _ _ | keep _ _ | idle _ _ _ | stop _ | resume _ _ _ | discard _ _ | giveUp _ _ _
  | refresh _ _ | retry _ _ _ _ _ | fetched _ _ _ | failed _ _ _ => exact front_unlock _
  | cancel _ =>
    unfold State.cancel
    dsimp only
    split
    · exact front_unlock _
    · intro free
      have empty := h free
      simp [empty]

theorem Shifts.holder_stays {a : Agent} (shifts : Shifts s s')
    (front : s'.holder = none → s'.queue = []) (holds : s.holder = some a) (asks : s'.Asks a) :
    s'.holder = some a := by
  have head : s'.line.head? = some a := by
    have before := line_of_holder holds
    cases shifts with
    | stays line _ => rw [line, before, List.head?_cons]
    | joins b line _ _ => rw [line, before, List.cons_append, List.head?_cons]
    | leaves b line fewer =>
      have other : a ≠ b := ((fewer a).1 asks).1
      rw [line, before, List.erase_cons_tail (by simpa using other), List.head?_cons]
  cases taken : s'.holder with
  | none =>
    rw [line, taken, front taken] at head
    cases head
  | some b =>
    rw [line_of_holder taken, List.head?_cons] at head
    exact head

/-- A reader that fetches has the lock and did not find a token that lives, and so it was before. -/
theorem Transition.fetching_before (t : Transition cfg env s e env' s' notes) (h : InLine env.now s)
    (orderly : Orderly s) (hn : s'.callers.get? n = some .fetching) :
    s.holder = some (.caller n) ∧ s.usable? env.now = none := by
  rcases t.fetching_from orderly hn with before | ⟨-, acts, unusable⟩
  · exact h.fetching n before
  · exact ⟨acts.holds, unusable⟩

/-- While a reader fetches the held token stays: who installs one has the lock, and is done. -/
theorem Transition.held_of_fetching (t : Transition cfg env s e env' s' notes)
    (h : InLine env.now s) (orderly : Orderly s) (hn : s'.callers.get? n = some .fetching) :
    s'.held = s.held := by
  rcases t.installing with ⟨same, -⟩ | ⟨a, _, _, brings, done, -⟩
  · exact same
  · have holds := (t.fetching_before h orderly hn).1
    obtain rfl : a = .caller n := Option.some.inj ((brings.holds h orderly).symm.trans holds)
    exact absurd ⟨_, hn⟩ done

theorem Transition.fetching (t : Transition cfg env s e env' s' notes) (h : InLine env.now s)
    (orderly : Orderly s) (unused : s.tasks.get? s.nextTimer = none)
    (hn : s'.callers.get? n = some .fetching) :
    s'.holder = some (.caller n) ∧ s'.usable? env.now = none := by
  obtain ⟨holds, unusable⟩ := t.fetching_before h orderly hn
  refine ⟨(t.shifts h orderly unused).holder_stays (t.front h.front) holds ⟨_, hn⟩, ?_⟩
  rw [usable?, t.held_of_fetching h orderly hn]
  exact unusable

theorem Transition.in_line (t : Transition cfg env s e env' s' notes) (h : InLine env.now s)
    (orderly : Orderly s) (unused : s.tasks.get? s.nextTimer = none) : InLine env.now s' := by
  obtain ⟨distinct, asks⟩ := (t.shifts h orderly unused).in_line h.distinct h.asks
  exact ⟨distinct, asks, t.front h.front, fun _ hn => t.fetching h orderly unused hn⟩

end Step

theorem InLine.later {now later : Nat} {s : State} (h : InLine now s) (hle : now ≤ later) :
    InLine later s where
  distinct := h.distinct
  asks := h.asks
  front := h.front
  fetching n hn := by
    obtain ⟨holds, unusable⟩ := h.fetching n hn
    refine ⟨holds, usable?_eq_none_iff.2 fun held hheld => ?_⟩
    exact Nat.le_trans (usable?_eq_none_iff.1 unusable held hheld) hle

theorem InLine.start (now : Nat) : InLine now .start where
  distinct := List.nodup_nil
  asks a := by
    refine iff_of_false nofun ?_
    cases a with
    | caller n => rintro ⟨_, ⟨⟩⟩
    | refresh t => rintro ⟨_, _, ⟨⟩⟩
  front _ := rfl
  fetching := nofun

theorem run_in_line {cfg : Config} {moves : List (Move State Event Note)} {env : Surroundings}
    {s : State} (run : (system cfg Clock).Run moves env s) : InLine env.now s := by
  obtain ⟨env₀, path⟩ := run
  induction path with
  | nil => exact .start _
  | wait _ hle ih => exact ih.later hle
  | move path hs ih =>
    have t := step_transition hs
    rw [t.now]
    exact t.in_line ih (run_orderly ⟨_, path⟩) (run_tethered ⟨_, path⟩).unused

end TokenCache
end SingleFlight
