import SingleFlight.Proofs.Cache.Sole
import SingleFlight.Proofs.TokenCache.Serving

/-!
Readers in line where no token is held.

The reader at the head of the line fetches, and is alone at the keyed cache: each of its steps there
is a stride.  If its fetch fails it alone is told so, and the next one fetches for itself.  As long
as every fetch has failed (`Failing`) the answers are the outcomes of the fetches, but for the one
that the reader at the head has yet to take.  The first fetch that gives a token which is still
alive ends this phase, and the readers behind are served (`Failing.step`).
-/

namespace SingleFlight
namespace TokenCache

open State

namespace State

/-- How often the reader at the head of the line has looked. -/
def looks (s : State) : Nat := s.holder.elim 0 s.keyed.looks

/-- The outcome that the reader at the head of the line has yet to take. -/
def untaken (s : State) : List (Outcome (Resource Token)) := s.holder.elim [] s.keyed.untaken

/-- The moves of the reader at the head of the line, once it stands there. -/
def turns (s : State) : Nat :=
  match s.holder with
  | some (.caller n) =>
    match s.callers.get? n with
    | some .fetching => 1 + s.keyed.looks (.caller n)
    | _ => 0
  | _ => 0

end State

/-- All fetches so far have failed.  The tasks that are left are old ones, and sleep. -/
structure Failing (cfg : Config) (due : Nat) (old : State) (now : Nat) (s : State) (l : Ledger) :
    Prop where
  late : due ≤ now
  unusable : s.usable? now = none
  asleep : ∀ t task, s.tasks.get? t = some task →
    task.isSleeping = true ∧ old.tasks.get? t ≠ none
  wishes : ∀ n wish, s.callers.get? n = some (.queued wish) → wish = .get
  sole : ∃ a, Cache.Sole s.keyed a cfg.parameters due
  line : s.line = (l.readers.drop l.answers.length).map .caller
  named : l.answers.map Prod.fst = l.readers.take l.answers.length
  failed : ∀ a ∈ l.answers, a.2.isOk = false
  outcomes : l.outcomes = l.answers.map Prod.snd ++ s.untaken.map (Except.map Resource.value)
  fetches : l.fetches = l.answers.length + (s.looks - 1)
  turns : l.turns = l.readers.length + 4 * l.answers.length + s.turns

/-- Only the end of a fetch is not as it arrives. -/
theorem of_arriving {cfg : Config} {now : Nat} {ke e : Cache.Event Agent ParameterSet Token}
    (h : arriving cfg now ke = e) (other : ∀ round ending, e ≠ .finish round ending) : ke = e := by
  cases ke with
  | finish round ending => exact absurd h.symm (other _ _)
  | look _ _ | decide _ | settle _ | drop _ => exact h

section Failing

variable {cfg : Config} {env env' : Surroundings} {old s s' : State} {e : Event}
  {notes : List Note} {due n : Nat} {l : Ledger} {a : Agent}

theorem InLine.fetching_unique {m : Nat} (h : InLine env.now s)
    (hn : s.callers.get? n = some .fetching) (hm : s.callers.get? m = some .fetching) : n = m := by
  simpa using (h.fetching n hn).1.symm.trans (h.fetching m hm).1

/-- Where no other agent has a request to make, and one is alone at the keyed cache, every step of
the keyed cache is a stride. -/
theorem Forward.stride (h : Forward cfg env.now s) {ke : Cache.Event Agent ParameterSet Token}
    {k : Cache.State Agent ParameterSet Token}
    {known : List (Cache.Note Agent ParameterSet Token)} (permits : s.Permits cfg ke)
    (t : Cache.Transition ParameterSet.text env s.keyed (arriving cfg env.now ke) env' k known)
    (sole : Cache.Sole s.keyed a cfg.parameters due) (late : due ≤ env.now)
    (only : ∀ b, s.mayRequest b = true → s.keyed.callers.get? b = none → b = a) :
    Cache.Stride ParameterSet.text env s.keyed k a cfg.parameters (arriving cfg env.now ke) known ∧
      (Cache.Sole k a cfg.parameters due ∨
        ∃ round r, known = [.answered a cfg.parameters round (.ok r)]) := by
  refine t.stride h.coherent sole late (fun b key look free => ?_) fun b drop => ?_
  · cases ke with
    | look _ _ =>
      cases look
      exact ⟨only b permits.1 free, permits.2⟩
    | decide _ | finish _ _ | settle _ | drop _ => cases look
  · cases ke with
    | drop _ => exact permits
    | look _ _ | decide _ | finish _ _ | settle _ => cases drop

theorem turns_of_fetching (holds : s.holder = some (.caller n))
    (fetching : s.callers.get? n = some .fetching) :
    s.turns = 1 + s.keyed.looks (.caller n) := by
  simp only [turns, holds, fetching]

theorem turns_of_idle (idle : ∀ n, s.callers.get? n ≠ some .fetching) : s.turns = 0 := by
  unfold turns
  split
  · split
    · rename_i n _ _ fetching
      exact absurd fetching (idle n)
    · rfl
  · rfl

theorem turns_le (s : State) : s.turns ≤ 3 := by
  unfold turns
  split
  · split
    · rename_i n _ _ _
      have looks := s.keyed.looks_le (.caller n)
      omega
    · omega
  · omega

theorem looks_of_idle (idle : ∀ a, s.keyed.callers.get? a = none) : s.looks = 0 := by
  unfold looks
  cases s.holder with
  | none => rfl
  | some a => rw [Option.elim_some, Cache.State.looks, idle]

theorem untaken_of_idle (idle : ∀ a, s.keyed.callers.get? a = none) : s.untaken = [] := by
  unfold untaken
  cases s.holder with
  | none => rfl
  | some a => rw [Option.elim_some, Cache.State.untaken, idle]

theorem turns_of_queued {wish : Wish} (holds : s.holder = some (.caller n))
    (queued : s.callers.get? n = some (.queued wish)) : s.turns = 0 := by
  simp only [turns, holds, queued]

namespace Failing

/-- Only a reader that fetches has a request to make. -/
theorem requests (h : Failing cfg due old env.now s l) (requests : s.mayRequest a = true) :
    ∃ n, a = .caller n ∧ s.callers.get? n = some .fetching := by
  cases a with
  | caller n => exact ⟨n, rfl, mayRequest_caller.1 requests⟩
  | refresh t => cases (h.asleep t _ (mayRequest_refresh.1 requests)).1

theorem not_returned (h : Failing cfg due old env.now s l) {t round : Nat}
    {o : Outcome (Resource Token)} (returns : s.Returns t round o) : False := by
  cases (h.asleep t _ returns.returned).1

/-- A reader that fetches is alone at the keyed cache. -/
theorem sole_of_fetching (h : Failing cfg due old env.now s l) (forward : Forward cfg env.now s)
    (fetching : s.callers.get? n = some .fetching) :
    Cache.Sole s.keyed (.caller n) cfg.parameters due := by
  obtain ⟨a, sole⟩ := h.sole
  cases working : s.keyed.callers.get? a with
  | none => exact sole.other working _
  | some stage =>
    obtain ⟨m, rfl, fetching'⟩ := h.requests (forward.orderly.atWork a stage working)
    obtain rfl := forward.inLine.fetching_unique fetching fetching'
    exact sole

theorem enter (h : Failing cfg due old env.now s l) (forward : Forward cfg env.now s)
    (new : s.callers.get? n = none) :
    Failing cfg due old env.now
      ({ s with callers := s.callers.insert n (.queued .get) }.lock (.caller n))
      { l with readers := l.readers ++ [n], turns := l.turns + 1 } := by
  have le := length_of_named h.named
  have free : s.keyed.callers.get? (.caller n) = none := by
    refine forward.orderly.not_at_work fun requests => ?_
    cases new.symm.trans (mayRequest_caller.1 requests)
  have there : ∀ m, s.holder = some (.caller m) → n ≠ m := by
    rintro m holds rfl
    obtain ⟨stage, hstage⟩ := (forward.inLine.asks (.caller n)).1 (by simp [State.line, holds])
    cases new.symm.trans hstage
  obtain ⟨looks, untaken, turns⟩ :
      ({ s with callers := s.callers.insert n (.queued .get) }.lock (.caller n)).looks = s.looks ∧
      ({ s with callers := s.callers.insert n (.queued .get) }.lock (.caller n)).untaken =
        s.untaken ∧
      ({ s with callers := s.callers.insert n (.queued .get) }.lock (.caller n)).turns =
        s.turns := by
    cases holds : s.holder with
    | none =>
      simp [lock, State.looks, State.untaken, State.turns, holds, Cache.State.looks,
        Cache.State.untaken, free, Table.get?_insert_self]
    | some a =>
      cases a with
      | refresh t => simp [lock, State.looks, State.untaken, State.turns, holds]
      | caller m =>
        simp [lock, State.looks, State.untaken, State.turns, holds,
          Table.get?_insert_of_ne (there m holds)]
  have at_end : ({ s with callers := s.callers.insert n (.queued .get) }.lock (.caller n)).line =
      s.line ++ [.caller n] := line_lock (by exact forward.inLine.front) _
  constructor
  case line =>
    rw [at_end, h.line, List.drop_append_of_le_length le, List.map_append]
    rfl
  case named => rw [List.take_append_of_le_length le, h.named]
  case outcomes => rw [untaken, h.outcomes]
  case fetches => rw [looks, h.fetches]
  case turns =>
    rw [turns, h.turns, List.length_append]
    simp only [List.length_singleton]
    omega
  case wishes =>
    intro m wish hm
    rw [lock_eq] at hm
    rcases Table.get?_of_get?_insert hm with ⟨-, same⟩ | ⟨-, before⟩
    · cases same
      rfl
    · exact h.wishes m wish before
  case late => exact h.late
  case unusable =>
    rw [lock_eq]
    exact h.unusable
  case asleep =>
    rw [lock_eq]
    exact h.asleep
  case sole =>
    rw [lock_eq]
    exact h.sole
  case failed => exact h.failed

theorem opens (h : Failing cfg due old env.now s l) (forward : Forward cfg env.now s)
    (acts : s.Acts n .get) :
    Failing cfg due old env.now { s with callers := s.callers.insert n .fetching }
      { l with turns := l.turns + 1 } := by
  have free : s.keyed.looks (.caller n) = 0 := by
    rw [Cache.State.looks, forward.orderly.not_at_work fun requests => ?_]
    cases acts.queued.symm.trans (mayRequest_caller.1 requests)
  have before : s.turns = 0 := turns_of_queued acts.holds acts.queued
  have after : ({ s with callers := s.callers.insert n .fetching } : State).turns = 1 :=
    (turns_of_fetching (s := { s with callers := s.callers.insert n .fetching }) acts.holds
      (Table.get?_insert_self _ _ _)).trans (congrArg (1 + ·) free)
  refine { h with wishes := fun m wish hm => ?_, turns := ?_ }
  · rcases Table.get?_of_get?_insert hm with ⟨-, same⟩ | ⟨-, there⟩
    · cases same
    · exact h.wishes m wish there
  · rw [after, h.turns, before]

/-- A step of the keyed cache is a stride of the reader that fetches. -/
theorem strides (h : Failing cfg due old env.now s l) (forward : Forward cfg env.now s)
    {ke : Cache.Event Agent ParameterSet Token} {k : Cache.State Agent ParameterSet Token}
    {known : List (Cache.Note Agent ParameterSet Token)} (permits : s.Permits cfg ke)
    (t : Cache.Transition ParameterSet.text env s.keyed (arriving cfg env.now ke) env' k known) :
    ∃ n, s.callers.get? n = some .fetching ∧
      Cache.Stride ParameterSet.text env s.keyed k (.caller n) cfg.parameters
        (arriving cfg env.now ke) known ∧
      (Cache.Sole k (.caller n) cfg.parameters due ∨
        ∃ round r, known = [.answered (.caller n) cfg.parameters round (.ok r)]) := by
  obtain ⟨_, somebody⟩ := forward.orderly.somebody permits t
  obtain ⟨n, -, fetching⟩ := h.requests somebody
  refine ⟨n, fetching, forward.stride permits t (h.sole_of_fetching forward fetching) h.late ?_⟩
  intro a requests _
  obtain ⟨m, rfl, fetching'⟩ := h.requests requests
  rw [forward.inLine.fetching_unique fetching fetching']

/-- The reader that fetches has taken a step at the keyed cache, and stays at the head of the
line. -/
theorem goes_on (h : Failing cfg due old env.now s l) (holds : s.holder = some (.caller n))
    (fetching : s.callers.get? n = some .fetching) {k : Cache.State Agent ParameterSet Token}
    (sole : ∃ a, Cache.Sole k a cfg.parameters due) :
    Failing cfg due old env.now { s with keyed := k }
      { l with
        outcomes :=
          l.answers.map Prod.snd ++ (k.untaken (.caller n)).map (Except.map Resource.value)
        fetches := l.answers.length + (k.looks (.caller n) - 1)
        turns := l.readers.length + 4 * l.answers.length + (1 + k.looks (.caller n)) } := by
  refine { h with sole := sole, outcomes := ?_, fetches := ?_, turns := ?_ }
  · simp [State.untaken, holds]
  · simp [State.looks, holds]
  · exact congrArg _ (turns_of_fetching (s := { s with keyed := k }) holds fetching).symm

/-- The reader that fetches is not answered yet. -/
theorem keyed (h : Failing cfg due old env.now s l) (forward : Forward cfg env.now s)
    {ke : Cache.Event Agent ParameterSet Token} {k : Cache.State Agent ParameterSet Token}
    {known : List (Cache.Note Agent ParameterSet Token)} (permits : s.Permits cfg ke)
    (t : Cache.Transition ParameterSet.text env s.keyed (arriving cfg env.now ke) env' k known)
    (quiet : ∀ a key round o, .answered a key round o ∉ known) :
    Failing cfg due old env.now { s with keyed := k }
      (l.after cfg ⟨env, s, .keyed ke, known.map .keyed, { s with keyed := k }⟩) := by
  obtain ⟨n, fetching, stride, sole⟩ := h.strides forward permits t
  have holds := (forward.inLine.fetching n fetching).1
  replace sole : ∃ a, Cache.Sole k a cfg.parameters due := by
    rcases sole with sole | ⟨round, r, rfl⟩
    · exact ⟨_, sole⟩
    · exact absurd (.head _) (quiet _ _ _ _)
  have turns := h.turns.trans (congrArg _ (turns_of_fetching holds fetching))
  have fetches : l.fetches = l.answers.length + (s.keyed.looks (.caller n) - 1) := by
    rw [h.fetches, State.looks, holds, Option.elim_some]
  have outcomes : l.outcomes = l.answers.map Prod.snd ++
      (s.keyed.untaken (.caller n)).map (Except.map Resource.value) := by
    rw [h.outcomes, State.untaken, holds, Option.elim_some]
  have next := h.goes_on holds fetching sole
  generalize harriving : arriving cfg env.now ke = arrived at stride
  cases stride with
  | defers free undecided =>
    obtain rfl := of_arriving harriving (by simp)
    have was : s.keyed.looks (.caller n) = 0 := by rw [Cache.State.looks, free]
    have is : k.looks (.caller n) = 1 := by rw [Cache.State.looks, undecided]
    have none_was : s.keyed.untaken (.caller n) = [] := by rw [Cache.State.untaken, free]
    have none_is : k.untaken (.caller n) = [] := by rw [Cache.State.untaken, undecided]
    rw [is, none_is] at next
    rw [was] at turns fetches
    rw [none_was] at outcomes
    simpa [Ledger.after, turns, fetches, outcomes, received?, Event.reader?, Event.byCaller,
      Event.agent?, Cache.Event.caller?, Nat.add_assoc] using next
  | starts undecided awaits running =>
    obtain rfl := of_arriving harriving (by simp)
    have was : s.keyed.looks (.caller n) = 1 := by rw [Cache.State.looks, undecided]
    have is : k.looks (.caller n) = 2 := by rw [Cache.State.looks, awaits]
    have none_was : s.keyed.untaken (.caller n) = [] := by rw [Cache.State.untaken, undecided]
    have none_is : k.untaken (.caller n) = [] := by
      simp [Cache.State.untaken, awaits, Cache.State.outcome?, running]
    rw [is, none_is] at next
    rw [was] at turns fetches
    rw [none_was] at outcomes
    simpa [Ledger.after, turns, fetches, outcomes, received?, Event.reader?, Event.byCaller,
      Event.agent?, Cache.Event.caller?, Note.isMiss, List.filterMap_cons, Note.answer?,
      Nat.add_assoc] using next
  | @ends round r ending awaits hround unfinished same ended =>
    have was : s.keyed.looks (.caller n) = 2 := by rw [Cache.State.looks, awaits]
    have is : k.looks (.caller n) = 2 := by rw [Cache.State.looks, same, awaits]
    have none_was : s.keyed.untaken (.caller n) = [] := by
      simp [Cache.State.untaken, awaits, Cache.State.outcome?, hround, unfinished]
    have one_is : k.untaken (.caller n) = [ending.outcome cfg.parameters.text] := by
      simp [Cache.State.untaken, same, awaits, Cache.State.outcome?, ended]
    rw [is, one_is] at next
    rw [was] at turns fetches
    rw [none_was] at outcomes
    obtain ⟨fetched, rfl, rfl⟩ : ∃ fetched, ke = .finish round fetched ∧
        Token.windowed env.now cfg.lead fetched = ending := by
      cases ke with
      | finish _ fetched =>
        cases harriving
        exact ⟨fetched, rfl, rfl⟩
      | look _ _ | decide _ | settle _ | drop _ => cases harriving
    simpa [Ledger.after, turns, fetches, outcomes, received?, Event.reader?, Event.byCaller,
      Event.agent?, Cache.Event.caller?, Note.isMiss, List.filterMap_cons, Note.answer?,
      received_eq] using next
  | settles _ _ _ | others _ _ _ => exact absurd (.head _) (quiet _ _ _ _)

/-- The reader that fetches is answered with the outcome that it had yet to take. -/
theorem settled (h : Failing cfg due old env.now s l) (forward : Forward cfg env.now s)
    {ke : Cache.Event Agent ParameterSet Token} {k : Cache.State Agent ParameterSet Token}
    {known : List (Cache.Note Agent ParameterSet Token)} {key : ParameterSet} {round : Nat}
    {o : Outcome (Resource Token)} (permits : s.Permits cfg ke)
    (t : Cache.Transition ParameterSet.text env s.keyed (arriving cfg env.now ke) env' k known)
    (ha : .answered (.caller n) key round o ∈ known) :
    ke = .settle (.caller n) ∧ known = [.answered (.caller n) cfg.parameters round o] ∧
      l.outcomes = l.answers.map Prod.snd ++ [o.map Resource.value] ∧
      l.fetches = l.answers.length + 1 ∧
      l.turns = l.readers.length + 4 * l.answers.length + 3 ∧
      k.callers.get? (.caller n) = none ∧
      (Cache.Sole k (.caller n) cfg.parameters due ∨ ∃ r, o = .ok r) := by
  obtain ⟨m, fetching, stride, sole⟩ := h.strides forward permits t
  obtain rfl : n = m := forward.inLine.fetching_unique
    (mayRequest_caller.1 (forward.orderly.answered permits t ha)) fetching
  have holds := (forward.inLine.fetching n fetching).1
  have turns := h.turns.trans (congrArg _ (turns_of_fetching holds fetching))
  have fetches := h.fetches
  have outcomes := h.outcomes
  rw [State.looks, holds, Option.elim_some] at fetches
  rw [State.untaken, holds, Option.elim_some] at outcomes
  generalize harriving : arriving cfg env.now ke = arrived at stride
  cases stride with
  | defers _ _ => cases ha
  | starts _ _ _ | ends _ _ _ _ _ => simp at ha
  | others other _ _ =>
    obtain ⟨rfl, -⟩ := by simpa using ha
    exact absurd rfl other
  | settles awaits ended gone =>
    obtain ⟨rfl, rfl, rfl⟩ := by simpa using ha
    have looks : s.keyed.looks (.caller n) = 2 := by rw [Cache.State.looks, awaits]
    have untaken : s.keyed.untaken (.caller n) = [o] := by
      simp [Cache.State.untaken, awaits, ended]
    rw [looks] at turns fetches
    rw [untaken] at outcomes
    refine ⟨of_arriving harriving (by simp), rfl, outcomes, fetches, turns, gone, ?_⟩
    refine sole.imp_right ?_
    rintro ⟨round', r, same⟩
    obtain ⟨-, ok⟩ : round = round' ∧ o = .ok r := by simpa using same
    exact ⟨r, ok⟩

/-- The reader is told that its fetch failed, and hands the lock on. -/
theorem fails (h : Failing cfg due old env.now s l) (forward : Forward cfg env.now s)
    {ke : Cache.Event Agent ParameterSet Token} {k : Cache.State Agent ParameterSet Token}
    {known : List (Cache.Note Agent ParameterSet Token)} {key : ParameterSet} {round : Nat}
    {error : ResourceError} (permits : s.Permits cfg ke)
    (t : Cache.Transition ParameterSet.text env s.keyed (arriving cfg env.now ke) env' k known)
    (ha : .answered (.caller n) key round (.error error) ∈ known) :
    Failing cfg due old env.now ({ s with keyed := k }.leave n)
      (l.after cfg ⟨env, s, .keyed ke, known.map .keyed ++ [.answered n (.error error)],
        { s with keyed := k }.leave n⟩) := by
  obtain ⟨rfl, rfl, outcomes, fetches, turns, gone, sole⟩ := h.settled forward permits t ha
  replace sole := sole.resolve_right nofun
  have fetching := mayRequest_caller.1 (forward.orderly.answered permits t ha)
  have holds := (forward.inLine.fetching n fetching).1
  have idle : ∀ a, k.callers.get? a = none := by
    intro a
    cases working : k.callers.get? a with
    | none => rfl
    | some stage =>
      rcases sole.alone a stage working with ⟨rfl, -⟩ | ⟨_, _, awaits, ended⟩
      · cases gone.symm.trans working
      · have before := t.awaited_before forward.coherent awaits ended
        obtain ⟨m, rfl, fetching'⟩ := h.requests (forward.orderly.atWork a _ before)
        rw [forward.inLine.fetching_unique fetching' fetching] at awaits
        cases gone.symm.trans awaits
  have queued : ∀ m, ({ s with keyed := k }.leave n).callers.get? m ≠ some .fetching := by
    intro m hm
    obtain ⟨other, before⟩ := Table.get?_of_get?_erase hm
    exact other (forward.inLine.fetching_unique fetching before)
  have at_head : .caller n :: s.queue = (l.readers.drop l.answers.length).map .caller ++
      ([] : List Nat).map .refresh := by
    rw [← line_of_holder holds, h.line, List.map_nil, List.append_nil]
  obtain ⟨next, behind⟩ := head_of_line at_head
  have after : l.after cfg ⟨env, s, .keyed (.settle (.caller n)),
      [Cache.Note.answered (.caller n) cfg.parameters round (.error error)].map .keyed ++
        [.answered n (.error error)], { s with keyed := k }.leave n⟩ =
      { l with answers := l.answers ++ [(n, .error error)], turns := l.turns + 1 } := by
    simp [Ledger.after, received?, Event.reader?, Event.byCaller, Event.agent?,
      Cache.Event.caller?, Note.isMiss, List.filterMap_cons, Note.answer?]
  rw [after]
  constructor
  case late => exact h.late
  case unusable => exact h.unusable
  case asleep => exact h.asleep
  case wishes =>
    intro m wish hm
    exact h.wishes m wish (Table.get?_of_get?_erase hm).2
  case sole => exact ⟨_, sole⟩
  case line =>
    rw [line_leave, List.length_append]
    simpa using behind
  case named =>
    rw [List.map_append, h.named, List.length_append, List.length_singleton, List.take_add_one,
      next]
    rfl
  case failed =>
    intro a ha
    rcases List.mem_append.1 ha with before | last
    · exact h.failed a before
    · rw [List.mem_singleton.1 last]
      rfl
  case outcomes =>
    rw [untaken_of_idle idle, outcomes, List.map_append]
    simp [Except.map]
  case fetches =>
    rw [looks_of_idle idle, fetches, List.length_append]
    rfl
  case turns =>
    rw [turns_of_idle queued, List.length_append, List.length_singleton]
    dsimp only
    omega

end Failing

/-- The reader that fetched has brought a token that lives. -/
theorem Failing.brings (h : Failing cfg due old env.now s l) (forward : Forward cfg env.now s)
    (windowed : Windowed env.now s.keyed)
    {ke : Cache.Event Agent ParameterSet Token} {k : Cache.State Agent ParameterSet Token}
    {known : List (Cache.Note Agent ParameterSet Token)} {key : ParameterSet} {round : Nat}
    {r : Resource Token} (permits : s.Permits cfg ke)
    (t : Cache.Transition ParameterSet.text env s.keyed (arriving cfg env.now ke) env' k known)
    (ha : .answered (.caller n) key round (.ok r) ∈ known) :
    Serving env.now (({ s with keyed := k }.install env.now (heldOf round r)).1.leave n)
      (l.after cfg ⟨env, s, .keyed ke,
        known.map .keyed ++ (({ s with keyed := k }.install env.now (heldOf round r)).2 ++
          [.answered n (.ok r.value)]),
        ({ s with keyed := k }.install env.now (heldOf round r)).1.leave n⟩) := by
  have alive : env.now < r.value.expiresAt := windowed.answered t ha
  obtain ⟨rfl, rfl, outcomes, fetches, turns, gone, -⟩ := h.settled forward permits t ha
  have fetching := mayRequest_caller.1 (forward.orderly.answered permits t ha)
  have holds := (forward.inLine.fetching n fetching).1
  have at_head : .caller n :: s.queue = (l.readers.drop l.answers.length).map .caller ++
      ([] : List Nat).map .refresh := by
    rw [← line_of_holder holds, h.line, List.map_nil, List.append_nil]
  obtain ⟨next, behind⟩ := head_of_line at_head
  have quiet : ({ s with keyed := k }.install env.now (heldOf round r)).2.filterMap
      Note.answer? = [] := filterMap_install (f := Note.answer?) (fun _ _ => rfl) _ _ _
  have unmissed : ({ s with keyed := k }.install env.now (heldOf round r)).2.any Note.isMiss =
      false := by
    refine List.any_eq_false.2 fun note hm => ?_
    rcases (mem_install_snd _ _).1 hm with rfl | ⟨-, rfl⟩ <;> simp [Note.isMiss]
  have after : l.after cfg ⟨env, s, .keyed (.settle (.caller n)),
      [Cache.Note.answered (.caller n) cfg.parameters round (.ok r)].map .keyed ++
        (({ s with keyed := k }.install env.now (heldOf round r)).2 ++ [.answered n (.ok r.value)]),
      ({ s with keyed := k }.install env.now (heldOf round r)).1.leave n⟩ =
      { l with answers := l.answers ++ [(n, .ok r.value)], turns := l.turns + 1 } := by
    simp [Ledger.after, received?, Event.reader?, Event.byCaller, Event.agent?,
      Cache.Event.caller?, Note.isMiss, List.filterMap_cons, Note.answer?, quiet, unmissed]
  have held : (({ s with keyed := k }.install env.now (heldOf round r)).1.leave n).usable? env.now =
      some (heldOf round r) := by
    refine usable?_eq_some_iff.2 ⟨?_, alive⟩
    simp only [leave, unlock, install_fst, arm_fst]
  rw [after]
  constructor
  case wishes =>
    intro m stage hm
    have before := Table.get?_of_get?_erase hm
    rw [install_fst, arm_fst] at before
    obtain ⟨other, there⟩ := before
    cases stage with
    | queued wish => rw [h.wishes m wish there]
    | fetching => exact absurd (forward.inLine.fetching_unique fetching there) other
  case line =>
    refine ⟨[], ?_⟩
    rw [line_leave, install_fst, queue_arm, List.length_append]
    simpa using behind
  case named =>
    rw [List.map_append, h.named, List.length_append, List.length_singleton, List.take_add_one,
      next]
    rfl
  case shared =>
    refine ⟨l.answers.map Prod.snd, r.value, [], 0, ?_, outcomes, ?_, ?_, fun _ _ _ =>
      ⟨_, held, rfl⟩⟩
    · intro result hresult
      obtain ⟨a, ha, rfl⟩ := List.mem_map.1 hresult
      exact h.failed a ha
    · rw [List.map_append]
      rfl
    · rw [List.length_map]
      exact fetches
  case turns =>
    rw [List.length_append, List.length_singleton]
    dsimp only
    omega

/-- What any move comes to, as long as all fetches have failed. -/
theorem Failing.step (h : Failing cfg due old env.now s l) (forward : Forward cfg env.now s)
    (windowed : Windowed env.now s.keyed) (t : Transition cfg env s e env' s' notes)
    {earlier : List (Move State Event Note)} (undisturbed : Undisturbed old earlier e) :
    Failing cfg due old env.now s' (l.after cfg ⟨env, s, e, notes, s'⟩) ∨
      Serving env.now s' (l.after cfg ⟨env, s, e, notes, s'⟩) ∧
        notes.filterMap Note.installed? ≠ [] := by
  cases t with
  | @enter n wish new _ =>
    obtain ⟨rfl, -⟩ := undisturbed
    refine .inl ?_
    have after := h.enter forward new
    simpa [Ledger.after, received?, Event.reader?, Event.byCaller, Event.agent?] using after
  | fetch acts _ =>
    refine .inl ?_
    have after := h.opens forward acts
    have quiet :
        (if s.held.isSome then [Note.foundExpired] else []).filterMap Note.answer? = [] := by
      split <;> rfl
    have unmissed :
        (if s.held.isSome then [Note.foundExpired] else []).any Note.isMiss = false := by
      split <;> rfl
    simpa [Ledger.after, received?, Event.reader?, Event.byCaller, Event.agent?, quiet,
      unmissed] using after
  | serve _ usable => cases h.unusable.symm.trans usable
  | keep acts _ | resume acts _ _ | idle acts _ _ | stop acts =>
    cases h.wishes _ _ acts.queued
  | discard returns _ | refresh returns _ | giveUp returns _ _ | retry returns _ _ _ _ =>
    exact (h.not_returned returns).elim
  | keyed permits t quiet => exact .inl (h.keyed forward permits t quiet)
  | failed permits t ha => exact .inl (h.fails forward permits t ha)
  | fetched permits t ha =>
    refine .inr ⟨h.brings forward windowed permits t ha, ?_⟩
    rw [List.filterMap_append, List.filterMap_append, install_snd]
    simp [Note.installed?]
  | returned permits t ha =>
    obtain ⟨_, same, -⟩ := h.requests (forward.orderly.answered permits t ha)
    cases same
  | fire sleeping _ _ => exact absurd undisturbed (h.asleep _ _ sleeping).2
  | quit _ _ =>
    refine .inl ?_
    rw [l.after_silent cfg rfl rfl rfl rfl]
    exact { h with asleep := fun t task ht => h.asleep t task (Table.get?_of_get?_erase ht).2 }
  | cancel _ => exact undisturbed.elim
  | addHandle _ | dropHandle _ =>
    refine .inl ?_
    rw [l.after_silent cfg rfl rfl rfl rfl]
    exact { h with }

end Failing

end TokenCache
end SingleFlight
