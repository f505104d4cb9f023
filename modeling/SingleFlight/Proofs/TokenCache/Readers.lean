import SingleFlight.Proofs.TokenCache.Line

/-!
What a reader waits for, and why it may fail.

While a token lives nobody who has the lock fetches, so a reader waits for nothing but the acts of
those ahead of it in the line, and each of these can act at once (`InLine.can_act`).  Every act
moves the reader one place ahead, and nothing moves it back (`Transition.place`).  When its turn
comes it is given the held token, and the keyed cache is not asked.

A reader is told an error only by a round of its own.  It got the lock, found no token that lived,
and then joined the round or started it: the moves from there on are its `Fetch`.
-/

namespace SingleFlight
namespace TokenCache

open State

/-- How many stand ahead of the caller in the line for the lock. -/
def State.place (s : State) (n : Nat) : Nat := s.line.idxOf (.caller n)

def Event.isAct : Event → Bool
  | act _ => true
  | _ => false

/-- The reader is given the token that lives, and the keyed cache is not asked. -/
def Served (n : Nat) (m : Move State Event Note) : Prop :=
  m.event = .act (.caller n) ∧ ∃ h, m.before.usable? m.env.now = some h ∧
    m.notes = [.answered n (.ok h.token)] ∧ m.after.keyed = m.before.keyed

/-- The moves from the one on in which the reader has the lock and finds no token that lives, while
it fetches. -/
structure Fetch (n : Nat) (span : List (Move State Event Note)) : Prop where
  opens : ∃ first rest, span = first :: rest ∧ first.event = .act (.caller n) ∧
    first.before.Acts n .get ∧ first.before.usable? first.env.now = none
  stays : ∀ m ∈ span.tail, m.before.callers.get? n = some .fetching

/-- In this move the reader asks the keyed cache for the key, and finds the round running or starts
it. -/
def Boards (m : Move State Event Note) (n : Nat) (key : ParameterSet) (round : Nat) : Prop :=
  ∃ ke way, m.event = .keyed ke ∧ Cache.Looks m.before.keyed (.caller n) key ke way ∧
    (m.before.keyed.Running key round ∨ .keyed (.missed key round) ∈ m.notes)

/-! ## The line moves on -/

theorem idxOf_cons_of_ne {a c : Agent} (h : c ≠ a) (l : List Agent) :
    (c :: l).idxOf a = l.idxOf a + 1 := by
  have hne : (c == a) = false := by simpa using h
  rw [List.idxOf_cons, hne]
  rfl

theorem idxOf_erase_le {l : List Agent} {a b : Agent} (h : a ≠ b) :
    (l.erase a).idxOf b ≤ l.idxOf b := by
  induction l with
  | nil => exact Nat.le_refl _
  | cons c l ih =>
    rw [List.erase_cons]
    by_cases hca : c = a
    · have hcb : c ≠ b := hca ▸ h
      rw [if_pos (by simpa using hca), idxOf_cons_of_ne hcb]
      exact Nat.le_succ _
    · rw [if_neg (by simpa using hca), List.idxOf_cons, List.idxOf_cons]
      cases c == b with
      | true => exact Nat.le_refl _
      | false => exact Nat.succ_le_succ ih

/-- Nobody gets ahead of a caller that stays in line. -/
theorem Shifts.place_le {s s' : State} {n : Nat} (shifts : Shifts s s')
    (there : Agent.caller n ∈ s.line) (stays : s'.Asks (.caller n)) : s'.place n ≤ s.place n := by
  unfold place
  cases shifts with
  | stays line _ => exact Nat.le_of_eq (by rw [line])
  | joins a line _ _ =>
    refine Nat.le_of_eq ?_
    rw [line, List.idxOf_append, if_pos there]
  | leaves a line fewer =>
    have other : Agent.caller n ≠ a := ((fewer _).1 stays).1
    rw [line]
    exact idxOf_erase_le other.symm

section Step

variable {cfg : Config} {env env' : Surroundings} {s s' : State} {e : Event} {notes : List Note}
  {n : Nat}

/-- Where a token lives, who has the lock acts without the keyed cache, and hands the lock on. -/
theorem Transition.acted {a : Agent} {held : Held}
    (t : Transition cfg env s (.act a) env' s' notes) (usable : s.usable? env.now = some held) :
    s.holder = some a ∧ s'.line = s.queue ∧ s'.keyed = s.keyed ∧ ∀ note, .keyed note ∉ notes := by
  cases t with
  | serve acts _ | keep acts _ | stop acts =>
    exact ⟨acts.holds, line_leave _ _, rfl, by simp⟩
  | fetch _ unusable | idle _ _ unusable => cases unusable.symm.trans usable
  | resume acts _ _ =>
    refine ⟨acts.holds, ?_, ?_, by simp [mem_arm_snd]⟩
    · rw [line_leave, queue_arm]
    · simp only [leave, unlock, arm_fst]
  | discard returns _ | giveUp returns _ _ =>
    exact ⟨returns.holds, line_retire _ _, rfl, by simp⟩
  | refresh returns _ =>
    refine ⟨returns.holds, ?_, ?_, by simp [mem_install_snd]⟩
    · rw [line_retire, install_fst, queue_arm]
    · simp only [retire, unlock, install_fst, arm_fst]
  | retry returns _ _ _ _ =>
    refine ⟨returns.holds, ?_, ?_, by simp [mem_arm_snd]⟩
    · rw [line_retire, queue_arm]
      rfl
    · simp only [retire, unlock, arm_fst, noteFailure]

/-- Where a token lives, who has the lock can act at once. -/
theorem InLine.can_act (h : InLine env.now s) {a : Agent} {held : Held}
    (usable : s.usable? env.now = some held) (holds : s.holder = some a) :
    ∃ s' notes, step cfg env s (.act a) = some (env, s', notes) := by
  have acts : ∃ result, s.act cfg env.now a = some result := by
    have there : a ∈ s.line := by
      rw [line_of_holder holds]
      exact .head _
    cases a with
    | caller n =>
      obtain ⟨stage, hstage⟩ := (h.asks _).1 there
      cases stage with
      | fetching => cases (h.fetching n hstage).2.symm.trans usable
      | queued wish =>
        unfold act
        dsimp only
        rw [hstage]
        cases wish with
        | get =>
          dsimp only
          rw [usable]
          exact ⟨_, rfl⟩
        | start | stop => exact ⟨_, rfl⟩
    | refresh t =>
      obtain ⟨round, outcome, hreturned⟩ := (h.asks _).1 there
      unfold act
      dsimp only
      rw [hreturned]
      exact ⟨_, rfl⟩
  obtain ⟨⟨s', notes⟩, hact⟩ := acts
  exact ⟨s', notes, by simp [step, holds, hact]⟩

/-- Where a token lives, a reader in line is served, or moves one place ahead if somebody acts. -/
theorem Transition.place (t : Transition cfg env s e env' s' notes) (h : InLine env.now s)
    (orderly : Orderly s) (unused : s.tasks.get? s.nextTimer = none) {held : Held}
    (usable : s.usable? env.now = some held) (hn : s.callers.get? n = some (.queued .get))
    (remains : e ≠ .cancel n) :
    (e = .act (.caller n) ∧ notes = [.answered n (.ok held.token)] ∧ s'.keyed = s.keyed) ∨
      s'.callers.get? n = some (.queued .get) ∧
        s'.place n + (if e.isAct then 1 else 0) ≤ s.place n := by
  by_cases own : e = .act (.caller n)
  · subst own
    refine .inl ⟨rfl, ?_, (t.acted usable).2.2.1⟩
    cases t with
    | serve _ usable' =>
      obtain rfl := Option.some.inj (usable.symm.trans usable')
      rfl
    | fetch _ unusable => cases unusable.symm.trans usable
    | keep acts _ | resume acts _ _ | idle acts _ _ | stop acts =>
      cases acts.queued.symm.trans hn
  · have stays := ((t.queued orderly hn).resolve_left own).resolve_left remains
    refine .inr ⟨stays, ?_⟩
    have behind := (t.shifts h orderly unused).place_le ((h.asks _).2 ⟨_, hn⟩) ⟨_, stays⟩
    cases e with
    | act a =>
      have other : a ≠ .caller n := fun same => own (by rw [same])
      obtain ⟨holds, line, -⟩ := t.acted usable
      unfold State.place
      rw [line, line_of_holder holds, idxOf_cons_of_ne other]
      exact Nat.le_refl _
    | enter _ _ | keyed _ | fire _ | quit _ | cancel _ | addHandle | dropHandle => exact behind

end Step

/-! ## Fetches of readers -/

section Step

variable {cfg : Config} {env env' : Surroundings} {s s' : State} {e : Event} {notes : List Note}
  {n round : Nat} {key : ParameterSet}

theorem Transition.boards (t : Transition cfg env s e env' s' notes)
    (coherent : Cache.Coherent s.keyed)
    (hc : s'.keyed.callers.get? (.caller n) = some (.awaiting key round)) :
    s.keyed.callers.get? (.caller n) = some (.awaiting key round) ∨
      Boards ⟨env, s, e, notes, s'⟩ n key round := by
  rcases t.on_keyed with ⟨-, same⟩ | ⟨-, m, -, left⟩ | ⟨ke, _, rfl, -, -⟩
  · rw [same] at hc
    exact .inl hc
  · rw [left] at hc
    exact .inl (Cache.State.get?_of_get?_leave hc).2
  · obtain ⟨-, known, t, told⟩ := t.of_keyed
    rcases t.at_work hc with before | ⟨way, looks, boards⟩
    · exact .inl before
    · refine .inr ⟨ke, way, rfl, looks_arriving.1 looks, ?_⟩
      rcases boards key round rfl with ⟨running, entry⟩ | missed
      · exact .inl ((coherent.inFlight key round entry).running running)
      · exact .inr ((told _).2 missed)

theorem Transition.told (t : Transition cfg env s e env' s' notes) {error : ResourceError}
    (ha : .answered n (.error error) ∈ notes) : ∃ key round,
      s.keyed.callers.get? (.caller n) = some (.awaiting key round) ∧
      s.keyed.outcome? round = some (.error error) := by
  cases t with
  | failed _ t hknown =>
    obtain ⟨rfl, rfl⟩ := by simpa using ha
    rcases t.answered hknown with ⟨_, _, hok, -⟩ | ⟨-, awaits, ended⟩
    · cases hok
    · exact ⟨_, _, awaits, ended⟩
  | fetch _ _ =>
    split at ha <;> simp at ha
  | resume _ _ _ | refresh _ _ | retry _ _ _ _ _ | fetched _ _ _ =>
    simp [mem_arm_snd, mem_install_snd] at ha
  | enter _ _ | serve _ _ | keep _ _ | idle _ _ _ | stop _ | discard _ _ | giveUp _ _ _
  | keyed _ _ _ | returned _ _ _ | fire _ _ _ | quit _ _ | cancel _ | addHandle _
  | dropHandle _ => simp at ha

end Step

theorem Fetch.first {n : Nat} {m : Move State Event Note} (own : m.event = .act (.caller n))
    (acts : m.before.Acts n .get) (unusable : m.before.usable? m.env.now = none) : Fetch n [m] :=
  ⟨⟨m, [], rfl, own, acts, unusable⟩, fun m' hm' => by cases hm'⟩

theorem Fetch.extend {n : Nat} {span : List (Move State Event Note)} {m : Move State Event Note}
    (h : Fetch n span) (fetching : m.before.callers.get? n = some .fetching) :
    Fetch n (span ++ [m]) := by
  obtain ⟨first, rest, rfl, opens⟩ := h.opens
  refine ⟨⟨first, rest ++ [m], rfl, opens⟩, fun m' hm' => ?_⟩
  rcases List.mem_append.1 hm' with hm' | hm'
  · exact h.stays m' hm'
  · obtain rfl := List.mem_singleton.1 hm'
    exact fetching

/-! ## Runs -/

section Run

variable {cfg : Config} {moves later : List (Move State Event Note)} {env env' : Surroundings}
  {s s' : State} {n : Nat}

/-- As long as a token lives whenever something happens, a reader in line is served in the end:
whoever acts brings it one place ahead. -/
theorem path_place (run : (system cfg Clock).Run moves env s)
    (path : (system cfg Clock).Path env s later env' s')
    (hn : s.callers.get? n = some (.queued .get))
    (warm : ∀ m ∈ later, m.event ≠ .cancel n ∧ ∃ h, m.before.usable? m.env.now = some h) :
    (∃ m ∈ later, Served n m) ∨ s'.callers.get? n = some (.queued .get) ∧
      s'.place n + later.countP (fun m => m.event.isAct) ≤ s.place n := by
  obtain ⟨env₀, first⟩ := run
  induction path with
  | nil => exact .inr ⟨hn, Nat.le_refl _⟩
  | wait _ _ ih => exact ih warm
  | @move later env env' s' s'' e notes path hs ih =>
    rcases ih fun m hm => warm m (List.mem_append_left _ hm) with ⟨m, hm, served⟩ | ⟨waits, ahead⟩
    · exact .inl ⟨m, List.mem_append_left _ hm, served⟩
    · obtain ⟨remains, held, usable⟩ := warm _ (List.mem_append_right _ (.head _))
      have before : (system cfg Clock).Run _ env s' := ⟨env₀, first.trans path⟩
      have in_line := run_in_line before
      have unused := (run_tethered before).unused
      rcases (step_transition hs).place in_line (run_orderly before) unused usable waits
        remains with ⟨own, answer, same⟩ | ⟨waits', closer⟩
      · exact .inl ⟨_, List.mem_append_right _ (.head _), own, held, usable, answer, same⟩
      · refine .inr ⟨waits', ?_⟩
        rw [List.countP_append, List.countP_singleton]
        change _ + (_ + if e.isAct then 1 else 0) ≤ _
        omega

/-- A reader that fetches has its fetch under way, and in it boarded the round that it waits for. -/
theorem fetching_since (run : (system cfg Clock).Run moves env s) :
    ∀ n, s.callers.get? n = some .fetching → ∃ earlier span, moves = earlier ++ span ∧
      Fetch n span ∧ ∀ key round,
        s.keyed.callers.get? (.caller n) = some (.awaiting key round) →
          ∃ look ∈ span, Boards look n key round := by
  obtain ⟨env₀, path⟩ := run
  induction path with
  | nil => nofun
  | wait _ _ ih => exact ih
  | @move moves env env' s s' e notes path hs ih =>
    intro n hn
    have t := step_transition hs
    rcases t.fetching_from (run_orderly ⟨_, path⟩) hn with before | ⟨own, acts, unusable⟩
    · obtain ⟨earlier, span, rfl, fetch, boarded⟩ := ih n before
      refine ⟨earlier, _, List.append_assoc _ _ _, fetch.extend before, fun key round hc => ?_⟩
      rcases t.boards (run_coherent ⟨_, path⟩) hc with waited | boards
      · obtain ⟨look, hlook, boards⟩ := boarded key round waited
        exact ⟨look, List.mem_append_left _ hlook, boards⟩
      · exact ⟨_, List.mem_append_right _ (.head _), boards⟩
    -- The fetch begins, and the keyed cache has not been asked.
    · refine ⟨moves, _, rfl, .first own acts unusable, fun key round hc => ?_⟩
      have fetching := mayRequest_caller.1 (t.requested (run_orderly ⟨_, path⟩) hc)
      cases acts.queued.symm.trans fetching

/-- Readers of a living token neither wait for a fetch nor hear of failures.

A caller that has the lock and fetches does so where no token lives.  So where the held token lives,
whoever has the lock can act at once, hands the lock on and leaves the keyed cache alone, and a
reader that has the lock is answered with that token.  Where a reader is in line somebody has the
lock, so it waits for one act of each of those ahead of it, as long as a token lives whenever
something happens, and is then served from what is held.  And a reader is told an error only if it
had the lock, found no token that lived, and then joined or started the round that failed so. -/
theorem readers_unhindered (run : (system cfg Clock).Run moves env s) :
    (∀ n, s.holder = some (.caller n) → s.callers.get? n = some .fetching →
      ∀ h, s.held = some h → h.token.expiresAt ≤ env.now) ∧
    (∀ h, s.held = some h → env.now < h.token.expiresAt →
      (∀ a, s.holder = some a → ∃ s' notes,
        step cfg env s (.act a) = some (env, s', notes) ∧ s'.line = s.queue ∧
        s'.keyed = s.keyed ∧ ∀ note, .keyed note ∉ notes) ∧
      ∀ n, s.Acts n .get →
        step cfg env s (.act (.caller n)) = some (env, s.leave n, [.answered n (.ok h.token)])) ∧
    (∀ n, s.callers.get? n = some (.queued .get) → (∃ a, s.holder = some a) ∧
      ∀ later env' s', (system cfg Clock).Path env s later env' s' →
        (∀ m ∈ later, m.event ≠ .cancel n ∧ ∃ h, m.before.usable? m.env.now = some h) →
        (∃ m ∈ later, Served n m) ∨ s'.callers.get? n = some (.queued .get) ∧
          s'.place n + later.countP (fun m => m.event.isAct) ≤ s.place n) ∧
    ∀ earlier m later, moves = earlier ++ m :: later → ∀ n error,
      .answered n (.error error) ∈ m.notes →
      ∃ before span look key round, earlier = before ++ span ∧ Fetch n span ∧
        m.before.callers.get? n = some .fetching ∧ look ∈ span ∧ Boards look n key round ∧
        m.before.keyed.outcome? round = some (.error error) := by
  have in_line := run_in_line run
  refine ⟨?_, ?_, ?_, ?_⟩
  · intro n _ fetching
    exact usable?_eq_none_iff.1 (in_line.fetching n fetching).2
  · intro h hheld alive
    have usable := usable?_eq_some_iff.2 ⟨hheld, alive⟩
    refine ⟨fun a holds => ?_, fun n acts => ?_⟩
    · obtain ⟨s', notes, hs⟩ := in_line.can_act usable holds
      exact ⟨s', notes, hs, ((step_transition hs).acted usable).2⟩
    · simp [step, act, acts.holds, acts.queued, usable, answer, leave]
  · intro n hn
    refine ⟨Option.ne_none_iff_exists'.1 fun free => ?_, fun later env' s' path warm =>
      path_place run path hn warm⟩
    have there := (in_line.asks (.caller n)).2 ⟨_, hn⟩
    rw [line, free, in_line.front free] at there
    cases there
  · intro earlier m later hmoves n error ha
    obtain ⟨env₀, path⟩ := run
    obtain ⟨_, first, hs, -⟩ := path.cut hmoves
    obtain ⟨key, round, awaits, failed⟩ := (step_transition hs).told ha
    have fetching := mayRequest_caller.1 ((run_orderly ⟨_, first⟩).atWork _ _ awaits)
    obtain ⟨before, span, hsplit, fetch, boarded⟩ := fetching_since ⟨_, first⟩ n fetching
    obtain ⟨look, hlook, boards⟩ := boarded key round awaits
    exact ⟨before, span, look, key, round, hsplit, fetch, fetching, hlook, boards, failed⟩

end Run

/-- While a refresh is in flight a reader of the living token is answered at once.  When the token
has expired another reader joins the round of the refresh, and is told that it failed. -/
theorem readers_unhindered_joined :
    ∃ cfg moves env s earlier m env' s', (system cfg Clock).Run moves env s ∧
      s.keyed.Running .empty 1 ∧
      step cfg env s (.act (.caller 1)) =
        some (env, s.leave 1, [.answered 1 (.ok ⟨"first", 100⟩)]) ∧
      (system cfg Clock).Run (earlier ++ [m]) env' s' ∧
      .answered 2 (.error (.fetch "\x7b\x7d" ["down"])) ∈ m.notes ∧
      ∃ before span look key round, earlier = before ++ span ∧ Fetch 2 span ∧ look ∈ span ∧
        Boards look 2 key round ∧
        m.before.keyed.outcome? round = some (.error (.fetch "\x7b\x7d" ["down"])) := by
  let cfg : Config :=
    { name := "token", parameters := .empty, lead := 10, backoff := { base := 1, limit := 8 } }
  have fetched : (system cfg Clock).Path .start .start _ _ _ :=
    .of_replay [.enter 0 .get, .act (.caller 0), .keyed (.look (.caller 0) .empty),
      .keyed (.decide (.caller 0)),
      .keyed (.finish 0 (.returned (.ok (Token.toResource ⟨"first", 100⟩ 0)))),
      .keyed (.settle (.caller 0))] rfl
  have due := fetched.wait (show (system cfg Clock).world _ _ (Surroundings.start.pass 90) from
    Nat.zero_le 90)
  have asked := due.trans (.of_replay [.fire 0, .keyed (.look (.refresh 0) .empty),
    .keyed (.decide (.refresh 0)), .enter 1 .get] rfl)
  have expired := asked.wait (show (system cfg Clock).world _ _ (Surroundings.start.pass 100) from
    (by decide : 90 ≤ 100))
  have joined := expired.trans (.of_replay [.cancel 1, .enter 2 .get, .act (.caller 2),
    .keyed (.look (.caller 2) .empty),
    .keyed (.finish 1 (.returned (.error (.plain "down"))))] rfl)
  have told := joined.trans (.of_replay [.keyed (.settle (.caller 2))] rfl)
  obtain ⟨before, span, look, key, round, hsplit, fetch, -, hlook, boards, failed⟩ :=
    (readers_unhindered ⟨_, told⟩).2.2.2 _ _ [] rfl 2 (.fetch "\x7b\x7d" ["down"]) (.tail _ (.head _))
  exact ⟨cfg, _, _, _, _, _, _, _, ⟨_, asked⟩, ⟨_, rfl, rfl, rfl⟩,
    ((readers_unhindered ⟨_, asked⟩).2.1 ⟨⟨"first", 100⟩, 90, 0⟩ rfl (by decide)).2 1 ⟨rfl, rfl⟩,
    ⟨_, told⟩, .tail _ (.head _), before, span, look, key, round, hsplit, fetch, hlook, boards,
    failed⟩

end TokenCache
end SingleFlight
