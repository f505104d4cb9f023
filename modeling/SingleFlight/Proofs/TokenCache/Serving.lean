import SingleFlight.Proofs.TokenCache.Ledger

/-!
Readers in line where a token is held.

A reader has fetched a token and handed on the lock, and the others are in line behind it.  The
token lives, and as long as readers are in line the clock stands still; so one after another is
given the token, and none fetches (`Serving`).  The timer of the token may fire in the meantime.
Its refresh comes to stand behind the readers.
-/

namespace SingleFlight
namespace TokenCache

open State

/-- Nothing comes between the readers: nobody but readers comes, and that before a token is
installed; nobody goes away; and no task wakes that was there before. -/
def Undisturbed (old : State) (earlier : List (Move State Event Note)) : Event → Prop
  | .enter _ wish => wish = .get ∧ installed earlier = []
  | .cancel _ => False
  | .fire t => old.tasks.get? t = none
  | _ => True

instance (old : State) (earlier : List (Move State Event Note)) :
    ∀ e, Decidable (Undisturbed old earlier e)
  | .enter _ wish => inferInstanceAs (Decidable (wish = .get ∧ installed earlier = []))
  | .cancel _ => inferInstanceAs (Decidable False)
  | .fire t => inferInstanceAs (Decidable (old.tasks.get? t = none))
  | .act _ | .keyed _ | .quit _ | .addHandle | .dropHandle => inferInstanceAs (Decidable True)

/-- A token is held, and while somebody is in line it lives. -/
structure Serving (now : Nat) (s : State) (l : Ledger) : Prop where
  wishes : ∀ n stage, s.callers.get? n = some stage → stage = .queued .get
  line : ∃ ts : List Nat,
    s.line = (l.readers.drop l.answers.length).map .caller ++ ts.map .refresh
  named : l.answers.map Prod.fst = l.readers.take l.answers.length
  shared : ∃ failed token rest more,
    (∀ result ∈ failed, Except.isOk result = false) ∧
    l.outcomes = failed ++ .ok token :: rest ∧
    l.answers.map Prod.snd = failed ++ List.replicate (more + 1) (.ok token) ∧
    l.fetches = failed.length + 1 ∧
    ∀ n stage, s.callers.get? n = some stage →
      ∃ h, s.usable? now = some h ∧ h.token = token
  turns : l.turns ≤ l.readers.length + 4 * l.answers.length

section Serving

variable {cfg : Config} {env env' : Surroundings} {old s s' : State} {e : Event}
  {notes : List Note} {n : Nat} {l : Ledger} {a : Agent}

namespace Serving

/-- No reader fetches. -/
theorem not_requests (h : Serving env.now s l) : s.mayRequest (.caller n) = false := by
  cases requests : s.mayRequest (.caller n) with
  | false => rfl
  | true => cases h.wishes n _ (mayRequest_caller.1 requests)

/-- As long as a reader is in line a reader has the lock. -/
theorem holder (h : Serving env.now s l) (inLine : InLine env.now s) {stage : CallerStage}
    (there : s.callers.get? n = some stage) :
    ∃ m, s.holder = some (.caller m) ∧ s.callers.get? m = some (.queued .get) := by
  obtain ⟨ts, line⟩ := h.line
  have in_line : .caller n ∈ s.line := (inLine.asks _).2 ⟨stage, there⟩
  cases rest : l.readers.drop l.answers.length with
  | nil =>
    rw [line, rest] at in_line
    simp at in_line
  | cons m others =>
    rw [rest] at line
    have holds : s.holder = some (.caller m) := by
      rw [holder_eq_head? inLine.front, line]
      rfl
    obtain ⟨stage', there'⟩ := (inLine.asks (.caller m)).1 (by rw [line]; exact .head _)
    exact ⟨m, holds, by rw [there', h.wishes m stage' there']⟩

/-- Where a refresh has the lock, no reader is in line. -/
theorem refresh_alone (h : Serving env.now s l) {t : Nat} (holds : s.holder = some (.refresh t)) :
    l.readers.drop l.answers.length = [] ∧ ∃ ts : List Nat, s.queue = ts.map .refresh := by
  obtain ⟨ts, line⟩ := h.line
  rw [line_of_holder holds] at line
  cases rest : l.readers.drop l.answers.length with
  | nil =>
    rw [rest] at line
    cases ts with
    | nil => simp at line
    | cons t' ts =>
      obtain ⟨-, queue⟩ : t = t' ∧ s.queue = ts.map .refresh := by simpa using line
      exact ⟨rfl, ts, queue⟩
  | cons m others =>
    rw [rest] at line
    simp at line

/-- The reader that has the lock is given the token. -/
theorem serve (h : Serving env.now s l) (acts : s.Acts n .get)
    {held : Held} (usable : s.usable? env.now = some held) :
    Serving env.now (s.leave n)
      { l with answers := l.answers ++ [(n, .ok held.token)], turns := l.turns + 1 } := by
  obtain ⟨ts, line⟩ := h.line
  rw [line_of_holder acts.holds] at line
  obtain ⟨next, behind⟩ := head_of_line line
  obtain ⟨failed, token, rest, more, errors, outcomes, answers, fetches, alive⟩ := h.shared
  obtain ⟨held', usable', rfl⟩ := alive n _ acts.queued
  obtain rfl := Option.some.inj (usable.symm.trans usable')
  constructor
  case wishes =>
    intro m stage hm
    exact h.wishes m stage (Table.get?_of_get?_erase hm).2
  case line =>
    refine ⟨ts, ?_⟩
    rw [line_leave, List.length_append]
    exact behind
  case named =>
    rw [List.map_append, h.named, List.length_append, List.length_singleton, List.take_add_one,
      next]
    rfl
  case shared =>
    refine ⟨failed, held.token, rest, more + 1, errors, outcomes, ?_, fetches, fun m stage hm =>
      alive m stage (Table.get?_of_get?_erase hm).2⟩
    rw [List.map_append, answers, List.append_assoc, List.replicate_succ' (n := more + 1)]
    rfl
  case turns =>
    have before := h.turns
    rw [List.length_append, List.length_singleton]
    dsimp only
    omega

/-- The readers are where they were, and the token lives if any are in line. -/
theorem stays (h : Serving env.now s l) (callers : s'.callers = s.callers)
    (line : ∃ ts : List Nat,
      s'.line = (l.readers.drop l.answers.length).map .caller ++ ts.map .refresh)
    (usable : ∀ n stage, s.callers.get? n = some stage → s'.usable? env.now = s.usable? env.now)
    (more : List (Except ResourceError Token)) :
    Serving env.now s' { l with outcomes := l.outcomes ++ more } := by
  obtain ⟨failed, token, rest, count, errors, outcomes, answers, fetches, alive⟩ := h.shared
  refine { h with wishes := ?_, line := line, shared := ?_ }
  · rw [callers]
    exact h.wishes
  · refine ⟨failed, token, rest ++ more, count, errors, ?_, answers, fetches, ?_⟩
    · rw [outcomes]
      simp
    · rw [callers]
      intro n stage there
      rw [usable n stage there]
      exact alive n stage there

end Serving

theorem Orderly.not_at_work (h : Orderly s) (idle : s.mayRequest a ≠ true) :
    s.keyed.callers.get? a = none := by
  cases working : s.keyed.callers.get? a with
  | none => rfl
  | some stage => exact absurd (h.atWork a stage working) idle

/-- Who takes a step at the keyed cache has a request to make. -/
theorem Orderly.moves (h : Orderly s) {ke : Cache.Event Agent ParameterSet Token}
    {k : Cache.State Agent ParameterSet Token}
    {known : List (Cache.Note Agent ParameterSet Token)} (permits : s.Permits cfg ke)
    (t : Cache.Transition ParameterSet.text env s.keyed (arriving cfg env.now ke) env' k known)
    (own : ke.caller? = some a) : s.mayRequest a = true := by
  cases ke with
  | look a' key =>
    cases own
    exact permits.1
  | decide a' =>
    cases own
    cases (t : Cache.Transition _ env s.keyed (.decide a) env' k known) with
    | hit looks _ _ | join looks _ _ =>
      cases looks with
      | second undecided => exact h.atWork _ _ undecided
    | promote undecided _ _ _ | miss undecided _ _ _ => exact h.atWork _ _ undecided
  | settle a' =>
    cases own
    cases (t : Cache.Transition _ env s.keyed (.settle a) env' k known) with
    | hit looks _ _ | join looks _ _ => cases looks
    | settle awaits _ => exact h.atWork _ _ awaits
  | finish _ _ => cases own
  | drop _ => exact permits.elim

/-- A refresh that has the lock acts, after all readers. -/
theorem Serving.refreshed (h : Serving env.now s l) (inLine : InLine env.now s) {t : Nat}
    (holds : s.holder = some (.refresh t)) (callers : s'.callers = s.callers)
    (line : s'.line = s.queue) : Serving env.now s' l := by
  obtain ⟨nobody, ts, queue⟩ := h.refresh_alone holds
  have after := h.stays callers ⟨ts, by rw [line, queue, nobody]; rfl⟩ ?_ []
  · rwa [List.append_nil] at after
  · intro n stage there
    obtain ⟨m, holds', -⟩ := h.holder inLine there
    cases holds.symm.trans holds'

/-- The keyed cache takes a step for a refresh. -/
theorem Serving.keyed (h : Serving env.now s l) (orderly : Orderly s)
    {ke : Cache.Event Agent ParameterSet Token} {k : Cache.State Agent ParameterSet Token}
    {known : List (Cache.Note Agent ParameterSet Token)} (permits : s.Permits cfg ke)
    (t : Cache.Transition ParameterSet.text env s.keyed (arriving cfg env.now ke) env' k known)
    (callers : s'.callers = s.callers) (held : s'.held = s.held)
    (line : s'.line = s.line ∨ ∃ t, s'.line = s.line ++ [.refresh t]) :
    Serving env.now s' (l.after cfg ⟨env, s, .keyed ke, known.map .keyed, s'⟩) := by
  have other : (Event.keyed ke).byCaller = false := by
    cases own : ke.caller? with
    | none => simp [Event.byCaller, Event.agent?, own]
    | some a =>
      cases a with
      | refresh _ => simp [Event.byCaller, Event.agent?, own]
      | caller n =>
        have requests := orderly.moves permits t own
        rw [h.not_requests] at requests
        cases requests
  have after : l.after cfg ⟨env, s, .keyed ke, known.map .keyed, s'⟩ =
      { l with outcomes := l.outcomes ++
        (received? cfg ⟨env, s, .keyed ke, known.map .keyed, s'⟩).toList } := by
    simp [Ledger.after, other, Event.reader?, filterMap_keyed (f := Note.answer?) fun _ => rfl]
  rw [after]
  refine h.stays callers ?_ (fun _ _ _ => by rw [usable?, usable?, held]) _
  obtain ⟨ts, before⟩ := h.line
  rcases line with same | ⟨t, joined⟩
  · exact ⟨ts, by rw [same, before]⟩
  · exact ⟨ts ++ [t], by rw [joined, before, List.append_assoc, List.map_append]; rfl⟩

/-- What any move comes to, once a token is held. -/
theorem Serving.step (h : Serving env.now s l) (inLine : InLine env.now s) (orderly : Orderly s)
    (t : Transition cfg env s e env' s' notes) {earlier : List (Move State Event Note)}
    (undisturbed : Undisturbed old earlier e) (served : installed earlier ≠ []) :
    Serving env.now s' (l.after cfg ⟨env, s, e, notes, s'⟩) := by
  cases t with
  | enter _ _ => exact absurd undisturbed.2 served
  | cancel _ => exact undisturbed.elim
  | serve acts usable =>
    have after := h.serve acts usable
    simpa [Ledger.after, received?, Event.reader?, Event.byCaller, Event.agent?, Note.isMiss,
      List.filterMap_cons, Note.answer?] using after
  | fetch acts unusable =>
    obtain ⟨_, _, _, _, -, -, -, -, alive⟩ := h.shared
    obtain ⟨_, usable, -⟩ := alive _ _ acts.queued
    cases unusable.symm.trans usable
  | keep acts _ | resume acts _ _ | idle acts _ _ | stop acts =>
    cases h.wishes _ _ acts.queued
  | fetched permits t ha | failed permits t ha =>
    have requests := orderly.answered permits t ha
    rw [h.not_requests] at requests
    cases requests
  | discard returns _ | giveUp returns _ _ =>
    rw [l.after_silent cfg rfl rfl rfl rfl]
    exact h.refreshed inLine returns.holds rfl (line_retire _ _)
  | @refresh t round r returns _ =>
    have quiet := filterMap_install (f := Note.answer?) (fun _ _ => rfl)
      { s with timer := none } env.now (heldOf round r)
    rw [l.after_silent cfg rfl rfl rfl quiet]
    refine h.refreshed inLine returns.holds ?_ ?_
    · simp only [retire, unlock, install_fst, arm_fst]
    · rw [line_retire, install_fst, queue_arm]
  | retry returns _ _ _ _ =>
    rw [l.after_silent cfg rfl rfl rfl (filterMap_arm (fun _ _ => rfl) _ _ _)]
    refine h.refreshed inLine returns.holds ?_ ?_
    · simp only [retire, unlock, arm_fst, noteFailure]
    · rw [line_retire, queue_arm]
      rfl
  | keyed permits t _ => exact h.keyed orderly permits t rfl rfl (.inl rfl)
  | returned permits t _ =>
    refine h.keyed orderly permits t ?_ ?_ (.inr ⟨_, line_lock (by exact inLine.front) _⟩)
    · rw [lock_eq]
    · rw [lock_eq]
  | fire _ _ _ | quit _ _ | addHandle _ | dropHandle _ =>
    rw [l.after_silent cfg rfl rfl rfl rfl]
    exact { h with }

end Serving

end TokenCache
end SingleFlight
