import SingleFlight.Proofs.TokenCache.Failing

/-!
Readers of a cache that holds no token.

From where no token lives and nobody is at work a path of readers is in one of its two phases
(`path_cold`).  What the readers are told and how often they call the source is read off the ledger
of either phase.

That they are told anything takes more: a caller that has the lock always has a move to make or
waits for a fetch that can end (`Forward.ready`), and no reader makes more than five moves.
-/

namespace SingleFlight
namespace TokenCache

open State

/-- The clock does not go back.  It does not move while a reader that has the lock has yet to look
for a token, nor while a reader has yet to take the outcome of the round that it waited for. -/
def Swift (env : Surroundings) (s : State) (env' : Surroundings) : Prop :=
  Prompt env s env' ∧ (env.now < env'.now → ∀ n, s.holder = some (.caller n) →
    s.callers.get? n = some .fetching)

/-- No token lives, nobody is at work, and the keyed cache has neither a fetch under way nor a
resource that is valid. -/
structure Cold (cfg : Config) (env : Surroundings) (s : State) : Prop where
  unusable : s.usable? env.now = none
  callers : ∀ n, s.callers.get? n = none
  asleep : ∀ t task, s.tasks.get? t = some task → task.isSleeping = true
  running : ∀ n, ¬ s.keyed.Running cfg.parameters n
  stale : ∀ n r, s.keyed.Stored cfg.parameters n r → (r.validity.check env).1 = false

/-- The agent has a move to make, or waits for a fetch, which can end in any way. -/
def Ready (cfg : Config) (env : Surroundings) (s : State) (a : Agent) : Prop :=
  (∃ e result, e.agent? = some a ∧ (∀ n, e ≠ .cancel n) ∧ step cfg env s e = some result) ∨
    ∃ key round, s.keyed.callers.get? a = some (.awaiting key round) ∧
      ∀ ending, ∃ result, step cfg env s (.keyed (.finish round ending)) = some result

section Path

variable {cfg : Config} {env env' : Surroundings} {s s' : State} {n : Nat}
  {a : Agent} {moves later : List (Move State Event Note)} {l : Ledger}

/-- The end of a round is the end of its resource's validity, so that what is stale stays so. -/
theorem Forward.stale_later (h : Forward cfg env.now s) {round : Nat} {r : Resource Token}
    (stored : s.keyed.Stored cfg.parameters round r) (stale : (r.validity.check env).1 = false)
    (hle : env.now ≤ env'.now) : (r.validity.check env').1 = false := by
  obtain ⟨due, hvalidity, -⟩ := h.bounded round r (stored.outcome h.coherent)
  rw [hvalidity] at stale ⊢
  refine Bool.eq_false_iff.2 fun valid => Bool.eq_false_iff.1 stale ?_
  exact Validity.check_expiresAt.2 (Nat.lt_of_le_of_lt hle (Validity.check_expiresAt.1 valid))

theorem Cold.failing (cold : Cold cfg env s) (forward : Forward cfg env.now s) :
    Failing cfg env.now s env.now s (ledger cfg []) := by
  have idle : ∀ n, s.callers.get? n ≠ some .fetching := by
    intro n fetching
    cases (cold.callers n).symm.trans fetching
  have nobody : ∀ a, s.keyed.callers.get? a = none := by
    intro a
    refine forward.orderly.not_at_work fun requests => ?_
    cases a with
    | caller n => exact idle n (mayRequest_caller.1 requests)
    | refresh t => cases cold.asleep t _ (mayRequest_refresh.1 requests)
  have empty : s.line = [] := by
    refine List.eq_nil_iff_forall_not_mem.2 fun a there => ?_
    cases a with
    | caller n =>
      obtain ⟨stage, hstage⟩ := (forward.inLine.asks _).1 there
      cases (cold.callers n).symm.trans hstage
    | refresh t =>
      obtain ⟨round, o, returned⟩ := (forward.inLine.asks _).1 there
      cases cold.asleep t _ returned
  constructor
  case late => exact Nat.le_refl _
  case unusable => exact cold.unusable
  case asleep =>
    intro t task ht
    exact ⟨cold.asleep t task ht, by rw [ht]; nofun⟩
  case wishes =>
    intro n wish queued
    cases (cold.callers n).symm.trans queued
  case sole =>
    refine ⟨.caller 0, ⟨fun n running => absurd running (cold.running n),
      fun n r stored => .inr fun env' hle => ?_⟩, fun a stage ha => ?_⟩
    · exact forward.stale_later stored (cold.stale n r stored) hle
    · cases (nobody a).symm.trans ha
  case line => exact empty
  case named => rfl
  case failed => exact nofun
  case outcomes =>
    rw [untaken_of_idle nobody]
    rfl
  case fetches =>
    rw [looks_of_idle nobody]
    rfl
  case turns =>
    rw [turns_of_idle idle]
    rfl

theorem Failing.wait {due : Nat} {old : State} (h : Failing cfg due old env.now s l)
    (hle : env.now ≤ env'.now) : Failing cfg due old env'.now s l :=
  { h with
    late := Nat.le_trans h.late hle
    unusable := usable?_eq_none_iff.2 fun held hheld =>
      Nat.le_trans (usable?_eq_none_iff.1 h.unusable held hheld) hle }

/-- While readers are in line the clock stands still. -/
theorem Serving.wait (h : Serving env.now s l) (inLine : InLine env.now s)
    (swift : Swift env s env') : Serving env'.now s l := by
  obtain ⟨failed, token, rest, more, errors, outcomes, answers, fetches, alive⟩ := h.shared
  refine { h with shared := ⟨failed, token, rest, more, errors, outcomes, answers, fetches, ?_⟩ }
  intro n stage there
  obtain ⟨m, holds, queued⟩ := h.holder inLine there
  rcases Nat.eq_or_lt_of_le swift.1.1 with same | moves
  · rw [← same]
    exact alive n stage there
  · cases queued.symm.trans (swift.2 moves m holds)

/-- A path of readers is in one of its two phases. -/
theorem path_cold (run : (system cfg Clock).Run moves env s) (cold : Cold cfg env s)
    (path : (system cfg Swift).Path env s later env' s')
    (undisturbed : ∀ earlier m rest, later = earlier ++ m :: rest →
      Undisturbed s earlier m.event) :
    Forward cfg env'.now s' ∧ Windowed env'.now s'.keyed ∧
      (Failing cfg env.now s env'.now s' (ledger cfg later) ∨
        Serving env'.now s' (ledger cfg later) ∧ installed later ≠ []) := by
  have forward := run_forward run
  induction path with
  | nil =>
    refine ⟨forward, ⟨forward.coherent, forward.bounded, fun n key round r hc _ => ?_⟩,
      .inl (cold.failing forward)⟩
    have fetching := mayRequest_caller.1 (forward.orderly.atWork _ _ hc)
    cases (cold.callers n).symm.trans fetching
  | wait _ swift ih =>
    obtain ⟨forward, windowed, phase⟩ := ih undisturbed
    refine ⟨forward.later swift.1.1, swift.1.windowed windowed, ?_⟩
    rcases phase with failing | ⟨serving, served⟩
    · exact .inl (failing.wait swift.1.1)
    · exact .inr ⟨serving.wait forward.inLine swift, served⟩
  | @move later env₁ env₂ s₁ s₂ e notes path hs ih =>
    obtain ⟨forward, windowed, phase⟩ := ih fun earlier m rest hm =>
      undisturbed earlier m (rest ++ _) (by rw [hm, List.append_assoc]; rfl)
    have now := undisturbed later _ [] rfl
    have t := step_transition hs
    have more : installed (later ++ [⟨env₁, s₁, e, notes, s₂⟩]) =
        installed later ++ notes.filterMap Note.installed? := by
      simp [installed]
    rw [ledger_concat, more]
    refine ⟨t.now ▸ t.forward forward, t.windowed windowed, ?_⟩
    rw [t.now]
    rcases phase with failing | ⟨serving, served⟩
    · refine (failing.step forward windowed t now).imp_right (And.imp_right fun new => ?_)
      simp [new]
    · refine .inr ⟨serving.step forward.inLine forward.orderly t now served, ?_⟩
      simp [served]

/-! ## Nobody is stuck -/

theorem step_permitted (env : Surroundings) {ke : Cache.Event Agent ParameterSet Token}
    (permits : s.Permits cfg ke) : step cfg env s (.keyed ke) = keyedStep cfg env s ke := by
  cases ke with
  | look a key =>
    obtain ⟨requests, rfl⟩ := permits
    simp [step, requests]
  | drop a => exact permits.elim
  | decide _ | finish _ _ | settle _ => rfl

theorem step_keyed (env : Surroundings) {ke : Cache.Event Agent ParameterSet Token}
    (permits : s.Permits cfg ke)
    (can : (Cache.step ParameterSet.text env s.keyed (arriving cfg env.now ke)).isSome = true) :
    ∃ result, step cfg env s (.keyed ke) = some result := by
  obtain ⟨⟨env₁, k, known⟩, taken⟩ := Option.isSome_iff_exists.1 can
  rw [step_permitted env permits]
  unfold keyedStep
  rw [taken]
  dsimp only
  split <;> exact ⟨_, rfl⟩

/-- A caller that has the lock and wants something can act. -/
theorem step_act (cfg : Config) (env : Surroundings) {wish : Wish} (acts : s.Acts n wish) :
    ∃ result, step cfg env s (.act (.caller n)) = some result := by
  obtain ⟨holds, queued⟩ := acts
  cases wish with
  | get => cases usable : s.usable? env.now <;> simp [step, act, holds, queued, usable]
  | start | stop => simp [step, act, holds, queued]

/-- Who has a request to make or under way is not stuck. -/
theorem Forward.ready_of_requests (h : Forward cfg env.now s) (requests : s.mayRequest a = true) :
    Ready cfg env s a := by
  cases working : s.keyed.callers.get? a with
  | none =>
    have permits : s.Permits cfg (.look a cfg.parameters) := ⟨requests, rfl⟩
    obtain ⟨result, hresult⟩ := step_keyed env permits (by simp [arriving, Cache.step, working])
    exact .inl ⟨.keyed (.look a cfg.parameters), result, rfl, by simp, hresult⟩
  | some stage =>
    cases stage with
    | undecided key =>
      have permits : s.Permits cfg (.decide a) := trivial
      obtain ⟨result, hresult⟩ := step_keyed env permits (by simp [arriving, Cache.step, working])
      exact .inl ⟨.keyed (.decide a), result, rfl, by simp, hresult⟩
    | awaiting key round =>
      have known := h.coherent.awaited _ _ _ working
      rcases known.running_or_ended with running | ⟨-, o, ended⟩
      · obtain ⟨r, hround, -, unfinished⟩ := known.running running
        have awaited : s.keyed.isAwaited round = true :=
          Cache.State.isAwaited_iff.2 ⟨_, _, working⟩
        refine .inr ⟨key, round, working, fun ending => step_keyed env trivial ?_⟩
        simp [arriving, Cache.step, hround, unfinished, awaited]
      · have permits : s.Permits cfg (.settle a) := trivial
        obtain ⟨result, hresult⟩ := step_keyed env permits
          (by simp [arriving, Cache.step, working, ended])
        exact .inl ⟨.keyed (.settle a), result, rfl, by simp, hresult⟩

/-- Who has the lock is not stuck. -/
theorem Forward.ready (h : Forward cfg env.now s) (holds : s.holder = some a) :
    Ready cfg env s a := by
  have asks := (h.inLine.asks a).1 (by rw [line_of_holder holds]; exact .head _)
  cases a with
  | caller n =>
    obtain ⟨stage, there⟩ := asks
    cases stage with
    | queued wish =>
      obtain ⟨result, hresult⟩ := step_act cfg env ⟨holds, there⟩
      exact .inl ⟨.act (.caller n), result, rfl, by simp, hresult⟩
    | fetching => exact h.ready_of_requests (mayRequest_caller.2 there)
  | refresh t =>
    obtain ⟨round, outcome, returned⟩ := asks
    refine .inl ⟨.act (.refresh t), ?_⟩
    simp [step, act, holds, returned, Event.agent?]

/-- As long as somebody is in line a reader has the lock. -/
theorem Failing.holder {due : Nat} {old : State} (h : Failing cfg due old env.now s l)
    (inLine : InLine env.now s) {stage : CallerStage} (there : s.callers.get? n = some stage) :
    ∃ m, s.holder = some (.caller m) := by
  have in_line : .caller n ∈ s.line := (inLine.asks _).2 ⟨stage, there⟩
  rw [h.line] at in_line
  cases rest : l.readers.drop l.answers.length with
  | nil =>
    rw [rest] at in_line
    cases in_line
  | cons m others =>
    refine ⟨m, ?_⟩
    rw [holder_eq_head? inLine.front, h.line, rest]
    rfl

theorem Failing.told {due : Nat} {old : State} (h : Failing cfg due old env.now s l) {i : Nat}
    {result : Except ResourceError Token} (ha : l.answers[i]? = some (n, result)) :
    l.readers[i]? = some n ∧ l.outcomes[min i l.first]? = some result := by
  refine ⟨readers_of_answers h.named ha, outcome_of_failed ?_ h.outcomes ?_⟩
  · intro result hresult
    obtain ⟨a, ha, rfl⟩ := List.mem_map.1 hresult
    exact h.failed a ha
  · rw [List.getElem?_map, ha]
    rfl

theorem Serving.told (h : Serving env.now s l) {i : Nat} {result : Except ResourceError Token}
    (ha : l.answers[i]? = some (n, result)) :
    l.readers[i]? = some n ∧ l.outcomes[min i l.first]? = some result := by
  obtain ⟨failed, token, rest, more, errors, outcomes, answers, -, -⟩ := h.shared
  have given : (failed ++ List.replicate (more + 1) (.ok token))[i]? = some result := by
    rw [← answers, List.getElem?_map, ha]
    rfl
  exact ⟨readers_of_answers h.named ha, outcome_of_shared errors outcomes given⟩

theorem Failing.cost {due : Nat} {old : State} (h : Failing cfg due old env.now s l)
    (inLine : InLine env.now s) : l.fetches ≤ min (l.first + 1) l.readers.length ∧
      l.turns ≤ 5 * l.readers.length ∧ ((∀ n, s.callers.get? n = none) →
        l.answers.length = l.readers.length ∧ l.fetches = min (l.first + 1) l.readers.length) := by
  have errors : ∀ result ∈ l.answers.map Prod.snd, Except.isOk result = false := by
    intro result hresult
    obtain ⟨a, ha, rfl⟩ := List.mem_map.1 hresult
    exact h.failed a ha
  have first := first_of_failed errors h.outcomes
  have in_line : s.line.length = l.readers.length - l.answers.length := by
    rw [h.line, List.length_map, List.length_drop]
  have le := length_of_named h.named
  have fetches := h.fetches
  have moved := h.turns
  rw [List.length_map] at first
  cases holds : s.holder with
  | none =>
    have empty : s.line = [] := by rw [State.line, holds, inLine.front holds]; rfl
    have looks : s.looks = 0 := by rw [State.looks, holds]; rfl
    have turns : s.turns = 0 := by rw [State.turns, holds]
    have untaken : s.untaken = [] := by rw [State.untaken, holds]; rfl
    rw [empty, List.length_nil] at in_line
    rw [untaken, List.map_nil, List.findIdx_nil] at first
    refine ⟨by omega, by omega, fun _ => by omega⟩
  | some a =>
    have looks : s.looks ≤ 2 := by
      rw [State.looks, holds, Option.elim_some]
      exact s.keyed.looks_le a
    have turns := turns_le s
    rw [line_of_holder holds, List.length_cons] at in_line
    refine ⟨by omega, by omega, fun nobody => ?_⟩
    have there : a ∈ s.line := by rw [line_of_holder holds]; exact .head _
    have asks := (inLine.asks a).1 there
    rw [h.line] at there
    obtain ⟨m, -, rfl⟩ := List.mem_map.1 there
    obtain ⟨stage, hstage⟩ := asks
    cases (nobody m).symm.trans hstage

theorem Serving.cost (h : Serving env.now s l) (inLine : InLine env.now s) :
    l.fetches ≤ min (l.first + 1) l.readers.length ∧
      l.turns ≤ 5 * l.readers.length ∧ ((∀ n, s.callers.get? n = none) →
        l.answers.length = l.readers.length ∧ l.fetches = min (l.first + 1) l.readers.length) := by
  obtain ⟨failed, token, rest, more, errors, outcomes, answers, fetches, -⟩ := h.shared
  have first := first_of_failed errors outcomes
  have at_head : (.ok token :: rest).findIdx Except.isOk = 0 := List.findIdx_cons
  have le := length_of_named h.named
  have count := congrArg List.length answers
  rw [List.length_map, List.length_append, List.length_replicate] at count
  have moved := h.turns
  refine ⟨by omega, by omega, fun nobody => ?_⟩
  obtain ⟨ts, line⟩ := h.line
  cases behind : l.readers.drop l.answers.length with
  | nil =>
    have none_left := congrArg List.length behind
    rw [List.length_drop, List.length_nil] at none_left
    omega
  | cons n others =>
    rw [behind] at line
    obtain ⟨stage, there⟩ := (inLine.asks (.caller n)).1 (by rw [line]; exact .head _)
    cases (nobody n).symm.trans there

/-- As long as all fetches have failed only readers call the source. -/
theorem Failing.missed {due : Nat} {old : State} {e : Event} {notes : List Note}
    (h : Failing cfg due old env.now s l) (forward : Forward cfg env.now s)
    (t : Transition cfg env s e env' s' notes) (missed : notes.any Note.isMiss = true) :
    e.byCaller = true := by
  obtain ⟨note, told, miss⟩ := List.any_eq_true.1 missed
  obtain ⟨key, round, rfl⟩ : ∃ key round, note = .keyed (.missed key round) := by
    unfold Note.isMiss at miss
    split at miss
    · exact ⟨_, _, rfl⟩
    · cases miss
  obtain ⟨ke, rfl⟩ := t.keyed_of_told told
  obtain ⟨permits, known, step, same⟩ := t.of_keyed
  replace told := (same _).1 told
  obtain ⟨n, -, stride, -⟩ := h.strides forward permits step
  generalize harriving : arriving cfg env.now ke = arrived at stride
  cases stride with
  | defers _ _ => cases told
  | starts _ _ _ =>
    obtain rfl := of_arriving harriving (by simp)
    rfl
  | ends _ _ _ _ _ | settles _ _ _ | others _ _ _ => simp at told

/-- Readers of a cache that holds no token pay for failures one by one and share a success.

On a path from where no token lives and nobody is at work, on which only readers come, before a
token is installed, and none goes away, the readers are answered in the order in which they asked:
each is told what its own fetch gave, in the order of the fetches, or what the first fetch gave that
brought a token, if that one was earlier.  A token that has expired on arrival counts as a failure,
as `received` says.  The readers call the source as often as it takes to get a token, and no more
often than there are readers; and until a token is installed nobody else calls it.

Nor is a reader left waiting.  As long as one is not answered a reader has the lock, which has a
move to make or waits for a fetch that can end in any way; and readers make five moves each at most.
When all are answered the counts above are exact. -/
theorem cold_readers_share_success (run : (system cfg Clock).Run moves env s)
    (cold : Cold cfg env s) (path : (system cfg Swift).Path env s later env' s')
    (undisturbed : ∀ earlier m rest, later = earlier ++ m :: rest →
      Undisturbed s earlier m.event) :
    let l := ledger cfg later
    (∀ i n result, l.answers[i]? = some (n, result) →
      l.readers[i]? = some n ∧ l.outcomes[min i l.first]? = some result) ∧
    l.fetches ≤ min (l.first + 1) l.readers.length ∧
    l.turns ≤ 5 * l.readers.length ∧
    ((∀ n, s'.callers.get? n = none) →
      l.answers.length = l.readers.length ∧ l.fetches = min (l.first + 1) l.readers.length) ∧
    (∀ n stage, s'.callers.get? n = some stage →
      ∃ m, s'.holder = some (.caller m) ∧ Ready cfg env' s' (.caller m)) ∧
    ∀ earlier m rest, later = earlier ++ m :: rest → m.notes.any Note.isMiss = true →
      m.event.byCaller = true ∨ installed earlier ≠ [] := by
  intro l
  obtain ⟨forward, -, phase⟩ := path_cold run cold path undisturbed
  have inLine := forward.inLine
  have cost := phase.elim (·.cost inLine) (·.1.cost inLine)
  refine ⟨fun i n result ha => phase.elim (·.told ha) (·.1.told ha), cost.1, cost.2.1, cost.2.2,
    ?_, ?_⟩
  · intro n stage there
    obtain ⟨m, holds⟩ : ∃ m, s'.holder = some (.caller m) := by
      rcases phase with failing | ⟨serving, -⟩
      · exact failing.holder inLine there
      · obtain ⟨m, holds, -⟩ := serving.holder inLine there
        exact ⟨m, holds⟩
    exact ⟨m, holds, forward.ready holds⟩
  · intro earlier m rest hlater missed
    obtain ⟨_, first, hs, -⟩ := path.cut hlater
    obtain ⟨forward, -, failing | ⟨-, served⟩⟩ := path_cold run cold first
      fun earlier' m' rest' hm => undisturbed earlier' m' (rest' ++ m :: rest)
        (by rw [hlater, hm, List.append_assoc]; rfl)
    · exact .inl (failing.missed forward (step_transition hs) missed)
    · exact .inr served

/-- Time may pass while the reader that has the lock waits for a fetch. -/
theorem Forward.swift (h : Forward cfg env.now s) {key : ParameterSet} {round : Nat}
    (awaits : s.keyed.callers.get? (.caller n) = some (.awaiting key round))
    (running : s.keyed.outcome? round = none) (hle : env.now ≤ env'.now) : Swift env s env' := by
  have fetching := mayRequest_caller.1 (h.orderly.atWork _ _ awaits)
  refine ⟨⟨hle, fun _ m key' round' awaits' => ?_⟩, fun _ m holds => ?_⟩
  · obtain rfl := h.inLine.fetching_unique fetching
      (mayRequest_caller.1 (h.orderly.atWork _ _ awaits'))
    obtain ⟨-, rfl⟩ : key = key' ∧ round = round' := by simpa using awaits.symm.trans awaits'
    exact running
  · obtain rfl : n = m := by simpa using (h.inLine.fetching n fetching).1.symm.trans holds
    exact fetching

theorem path_clock (path : (system cfg Swift).Path env s later env' s') :
    (system cfg Clock).Path env s later env' s' := path.mono fun swift => swift.1.1

theorem undisturbed_of_take
    (h : ∀ i (hi : i < later.length), Undisturbed s (later.take i) (later.get ⟨i, hi⟩).event) :
    ∀ earlier m rest, later = earlier ++ m :: rest → Undisturbed s earlier m.event := by
  rintro earlier m rest rfl
  have now := h earlier.length (by simp)
  simpa using now

end Path

/-- Four readers ask at once.  The first fetch fails, the second gives a token that has expired on
arrival, and the third one that lives, with which the fourth reader is served at the same moment. -/
theorem cold_readers_share_success_fourth :
    ∃ cfg later env s, (system cfg Swift).Path .start .start later env s ∧
      (ledger cfg later).readers = [0, 1, 2, 3] ∧ (ledger cfg later).first = 2 ∧
      (∀ n, s.callers.get? n = none) ∧
      (ledger cfg later).fetches = min (2 + 1) 4 ∧
      (∀ n result, (ledger cfg later).answers[1]? = some (n, result) →
        (ledger cfg later).readers[1]? = some n ∧
          (ledger cfg later).outcomes[1]? = some result) ∧
      (ledger cfg later).outcomes[1]? =
        some (.error (.fetch "\x7b\x7d" ["fetched token is already expired"])) ∧
      ∀ n result, (ledger cfg later).answers[3]? = some (n, result) →
        (ledger cfg later).outcomes[2]? = some result := by
  let cfg : Config :=
    { name := "token", parameters := .empty, lead := 10, backoff := { base := 1, limit := 8 } }
  have run : (system cfg Clock).Run [] .start .start := ⟨.start, .nil⟩
  have cold : Cold cfg .start .start :=
    { unusable := rfl
      callers := fun _ => rfl
      asleep := nofun
      running := fun n ⟨_, hround, _⟩ => by cases hround
      stale := fun n r stored => by rcases stored with ready | ⟨inFlight, -⟩ <;> contradiction }
  have asked : (system cfg Swift).Path .start .start _ _ _ :=
    .of_replay [.enter 0 .get, .enter 1 .get, .enter 2 .get, .enter 3 .get, .act (.caller 0),
      .keyed (.look (.caller 0) .empty), .keyed (.decide (.caller 0))] rfl
  have clocked : (system cfg Clock).Run _ _ _ := ⟨_, path_clock asked⟩
  have swift : Swift _ _ (Surroundings.start.pass 50) :=
    (run_forward clocked).swift (n := 0) rfl rfl (Nat.zero_le 50)
  have late := asked.wait swift
  have failed := late.trans (.of_replay [.keyed (.finish 0 (.returned (.error (.plain "down")))),
    .keyed (.settle (.caller 0)), .act (.caller 1), .keyed (.look (.caller 1) .empty),
    .keyed (.decide (.caller 1)),
    .keyed (.finish 1 (.returned (.ok (Token.toResource ⟨"old", 40⟩ 0)))),
    .keyed (.settle (.caller 1)), .act (.caller 2), .keyed (.look (.caller 2) .empty),
    .keyed (.decide (.caller 2)),
    .keyed (.finish 2 (.returned (.ok (Token.toResource ⟨"new", 90⟩ 1)))),
    .keyed (.settle (.caller 2)), .act (.caller 3)] rfl)
  obtain ⟨told, -, -, counts, -, -⟩ := cold_readers_share_success run cold failed
    (undisturbed_of_take (by decide))
  exact ⟨cfg, _, _, _, failed, rfl, rfl, fun _ => rfl, (counts fun _ => rfl).2, told 1, rfl,
    fun n result ha => (told 3 n result ha).2⟩

end TokenCache
end SingleFlight
