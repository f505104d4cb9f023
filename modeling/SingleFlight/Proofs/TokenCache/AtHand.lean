import SingleFlight.Proofs.Cache.Failed
import SingleFlight.Proofs.TokenCache.Answers
import SingleFlight.Proofs.TokenCache.Outage

/-!
Tokens that were fetched for nobody.

A refresh may be superseded while its round runs, and is discarded then.  The token of the round is
in the table of the keyed cache all the same, and stays there until its refresh instant.  Whoever
looks for a token before that, a reader that finds the held one expired or the refresh of a later
timer, is given this one: no fetch runs that could be joined, and none is started
(`Forward.given`).  A reader installs it at once.  A refresh keeps it until it has the lock
(`Transition.keeps_returned`), and installs it then unless it has been superseded itself.
-/

namespace SingleFlight
namespace TokenCache

open State

/-- The agent is given the token of the round. -/
def Obtains (cfg : Config) (s : State) (notes : List Note) (n : Nat) (r : Resource Token)
    (a : Agent) : Prop :=
  .keyed (.answered a cfg.parameters n (.ok r)) ∈ notes ∧ PassedOn s notes n (.ok r) a

/-- The token of the round can be had without a fetch.  It is in the table.  Whoever has a request
to make can look, and is given the token or has to look again; whoever has to look again can do so,
and is given it.  Nobody who has the lock or a request under way waits for a fetch. -/
structure AtHand (cfg : Config) (env : Surroundings) (s : State) (n : Nat) (r : Resource Token) :
    Prop where
  stored : s.keyed.Stored cfg.parameters n r
  look : ∀ a, s.mayRequest a = true → s.keyed.callers.get? a = none →
    ∃ env' s' notes, step cfg env s (.keyed (.look a cfg.parameters)) = some (env', s', notes) ∧
      (Obtains cfg s' notes n r a ∨
        s'.keyed.callers.get? a = some (.undecided cfg.parameters))
  decide : ∀ a key, s.keyed.callers.get? a = some (.undecided key) →
    ∃ env' s' notes, step cfg env s (.keyed (.decide a)) = some (env', s', notes) ∧
      Obtains cfg s' notes n r a
  moves : ∀ a, s.holder = some a ∨ s.mayRequest a = true →
    ∃ e result, e.agent? = some a ∧ (∀ c, e ≠ .cancel c) ∧ step cfg env s e = some result

section Step

variable {cfg : Config} {env env' : Surroundings} {s s' : State} {e : Event} {notes : List Note}
  {a : Agent} {n t : Nat} {r : Resource Token}

/-- A look finds the token, or has to be followed by another. -/
theorem Forward.given (h : Forward cfg env.now s) {ke : Cache.Event Agent ParameterSet Token}
    {k : Cache.State Agent ParameterSet Token}
    {known : List (Cache.Note Agent ParameterSet Token)} {key : ParameterSet} {way : Cache.Path}
    (t : Cache.Transition ParameterSet.text env s.keyed (arriving cfg env.now ke) env' k known)
    (looks : Cache.Looks s.keyed a key (arriving cfg env.now ke) way)
    (stored : s.keyed.Stored cfg.parameters n r) (valid : (r.validity.check env).1 = true)
    (permits : s.Permits cfg ke) :
    .answered a cfg.parameters n (.ok r) ∈ known ∨
      way = .firstLook ∧ k.callers.get? a = some (.undecided cfg.parameters) := by
  obtain rfl := h.looks_key permits looks
  rcases t.looked h.coherent looks with ⟨m, missed⟩ | ⟨m, running, -⟩ | ⟨m, r', ha⟩ | again
  · have called : m ∈ known.filterMap Cache.Note.called? :=
      List.mem_filterMap.2 ⟨_, missed, rfl⟩
    rw [(t.idles h.coherent stored valid h.keys).1] at called
    cases called
  · exact absurd running (stored.not_running h.coherent m)
  · left
    rcases t.answered_from h.coherent ha with awaits | ⟨slot, _, entry, rfl, ended, -⟩
    · exact absurd awaits looks.not_awaiting
    · have same : slot.round = n := by
        rcases stored with ready | ⟨inFlight, -⟩
        · obtain rfl := Option.some.inj (entry.symm.trans ready)
          rfl
        · obtain rfl := Option.some.inj (entry.symm.trans inFlight)
          rfl
      rw [same] at ha
      obtain rfl : r' = r := by
        simpa using (t.answered_ended h.coherent ha).symm.trans (stored.outcome h.coherent)
      exact ha
  · exact .inr again

/-- A look of the agent can be taken, and finds the token or has to be followed by another. -/
theorem Forward.can_look (h : Forward cfg env.now s) {ke : Cache.Event Agent ParameterSet Token}
    {key : ParameterSet} {way : Cache.Path}
    (looks : Cache.Looks s.keyed a key ke way) (stored : s.keyed.Stored cfg.parameters n r)
    (valid : (r.validity.check env).1 = true) (permits : s.Permits cfg ke)
    (can : (Cache.step ParameterSet.text env s.keyed ke).isSome = true) :
    ∃ env' s' notes, step cfg env s (.keyed ke) = some (env', s', notes) ∧
      (Obtains cfg s' notes n r a ∨ way = .firstLook ∧
        s'.keyed.callers.get? a = some (.undecided cfg.parameters)) := by
  have arrives : arriving cfg env.now ke = ke := by
    cases looks <;> rfl
  obtain ⟨⟨env', s', notes⟩, hs⟩ : ∃ result, step cfg env s (.keyed ke) = some result :=
    step_keyed env permits (by rwa [arrives])
  refine ⟨env', s', notes, hs, ?_⟩
  have t := step_transition hs
  obtain ⟨-, known, kt, told⟩ := t.of_keyed
  rcases h.given kt (looks_arriving.2 looks) stored valid permits with ha | again
  · exact .inl ⟨(told _).2 ha, t.passes_on ((told _).2 ha)⟩
  · exact .inr again

/-- Nobody waits for a fetch while there is a token that can be had without one. -/
theorem Forward.not_stuck (h : Forward cfg env.now s) (stored : s.keyed.Stored cfg.parameters n r)
    (busy : s.holder = some a ∨ s.mayRequest a = true) :
    ∃ e result, e.agent? = some a ∧ (∀ c, e ≠ .cancel c) ∧ step cfg env s e = some result := by
  have ready : Ready cfg env s a := busy.elim h.ready h.ready_of_requests
  rcases ready with own | ⟨key, round, awaits, ends⟩
  · exact own
  · obtain rfl : key = cfg.parameters := h.keys _ _ awaits
    have known := h.coherent.awaited _ _ _ awaits
    obtain ⟨⟨_, _, _⟩, hs⟩ := ends (.panicked none)
    obtain ⟨-, _, kt, -⟩ := (step_transition hs).of_keyed
    exact absurd (kt.finish_running known) (stored.not_running h.coherent round)

theorem Forward.at_hand (h : Forward cfg env.now s) (stored : s.keyed.Stored cfg.parameters n r)
    (valid : (r.validity.check env).1 = true) : AtHand cfg env s n r := by
  refine ⟨stored, fun a requests new => ?_, fun a key undecided => ?_,
    fun a busy => h.not_stuck stored busy⟩
  · obtain ⟨env', s', notes, hs, given | ⟨-, again⟩⟩ := h.can_look (.first new) stored valid
      ⟨requests, rfl⟩ (by simp [Cache.step, new])
    · exact ⟨env', s', notes, hs, .inl given⟩
    · exact ⟨env', s', notes, hs, .inr again⟩
  · obtain ⟨env', s', notes, hs, given | ⟨first, -⟩⟩ := h.can_look (.second undecided) stored valid
      trivial (by simp [Cache.step, undecided])
    · exact ⟨env', s', notes, hs, given⟩
    · cases first

theorem get?_arm_of_ne (s : State) (now firesAt : Nat) {id : Nat} {task : Task}
    (other : s.nextTimer ≠ id) (there : s.tasks.get? id = some task) :
    (s.arm now firesAt).1.tasks.get? id = some task := by
  rw [arm_fst]
  dsimp only
  split
  · rwa [Table.get?_insert_of_ne other]
  · exact there

/-- A task that is awake stays as it is until it acts, or is answered if it has a request to make. -/
theorem Transition.awake_after (t : Transition cfg env s e env' s' notes) (orderly : Orderly s)
    (tethered : Tethered env.now s) {id : Nat} {task : Task} (there : s.tasks.get? id = some task)
    (awake : task.isSleeping = false) (other : e ≠ .act (.refresh id)) :
    s'.tasks.get? id = some task ∨
      task = .requesting ∧ ∃ round o, s'.tasks.get? id = some (.returned round o) := by
  have old : s.nextTimer ≠ id := by
    rintro rfl
    cases tethered.unused.symm.trans there
  have retired : ∀ {t' : Nat}, e = .act (.refresh t') → t' ≠ id := by
    rintro t' rfl rfl
    exact other rfl
  have not_sleeping : ∀ {t' firesAt : Nat}, s.tasks.get? t' = some (.sleeping firesAt) →
      t' ≠ id := by
    rintro t' firesAt sleeping rfl
    cases sleeping.symm.trans there
    cases awake
  cases t with
  | enter _ _ => rw [lock_eq]; exact .inl there
  | cancel _ => rw [cancel_eq]; exact .inl there
  | serve _ _ | fetch _ _ | keep _ _ | idle _ _ _ | stop _ | keyed _ _ _ | failed _ _ _
  | addHandle _ | dropHandle _ => exact .inl there
  | resume _ _ _ | fetched _ _ _ => exact .inl (get?_arm_of_ne _ _ _ old there)
  | discard _ _ | giveUp _ _ _ => exact .inl ((Table.get?_erase_of_ne (retired rfl)).trans there)
  | refresh _ _ | retry _ _ _ _ _ =>
    exact .inl ((Table.get?_erase_of_ne (retired rfl)).trans (get?_arm_of_ne _ _ _ old there))
  | fire sleeping _ _ =>
    exact .inl ((Table.get?_insert_of_ne (not_sleeping sleeping)).trans there)
  | quit sleeping _ => exact .inl ((Table.get?_erase_of_ne (not_sleeping sleeping)).trans there)
  | @returned _ _ _ _ t' _ round o permits t answered =>
    rw [lock_eq]
    by_cases own : t' = id
    · subst own
      have requesting := mayRequest_refresh.1 (orderly.answered permits t answered)
      exact .inr ⟨Option.some.inj (there.symm.trans requesting), round, o,
        Table.get?_insert_self _ _ _⟩
    · exact .inl ((Table.get?_insert_of_ne own).trans there)

/-- What a refresh was given it keeps until it acts. -/
theorem Transition.keeps_returned (t : Transition cfg env s e env' s' notes)
    (orderly : Orderly s) (tethered : Tethered env.now s) {id : Nat}
    {o : Outcome (Resource Token)} (there : s.tasks.get? id = some (.returned n o))
    (other : e ≠ .act (.refresh id)) :
    s'.tasks.get? id = some (.returned n o) := by
  rcases t.awake_after orderly tethered there rfl other with stays | ⟨requesting, -⟩
  · exact stays
  · cases requesting

/-- A refresh that acts installs the token that it was given, if its timer still is that of the
cache, and otherwise nothing changes but that it is gone. -/
theorem Transition.acts_on_returned {id : Nat}
    (t : Transition cfg env s (.act (.refresh id)) env' s' notes)
    (there : s.tasks.get? id = some (.returned n (.ok r))) :
    (s.timer.map Timer.id = some id →
      .installed (heldOf n r) ∈ notes ∧ s'.held = some (heldOf n r)) ∧
    (s.timer.map Timer.id ≠ some id → notes = [.discarded id] ∧ s'.held = s.held) := by
  cases t with
  | discard _ superseded => exact ⟨fun current => absurd current superseded, fun _ => ⟨rfl, rfl⟩⟩
  | refresh returns current =>
    obtain ⟨rfl, rfl⟩ : n = _ ∧ r = _ := by simpa using there.symm.trans returns.returned
    refine ⟨fun _ => ⟨by simp [mem_install_snd], ?_⟩, fun superseded => absurd current superseded⟩
    simp only [retire, unlock, install_fst, arm_fst]
  | giveUp returns _ _ | retry returns _ _ _ _ => cases there.symm.trans returns.returned

end Step

/-! ## Runs -/

section Run

variable {cfg : Config} {moves later : List (Move State Event Note)} {env env' : Surroundings}
  {s s' : State} {n : Nat} {r : Resource Token}

theorem run_at_hand (run : (system cfg Clock).Run moves env s)
    (ended : s.keyed.outcome? n = some (.ok r)) (early : env.now < (heldOf n r).refreshAt) :
    AtHand cfg env s n r ∧
      ∀ e env' s' notes, step cfg env s e = some (env', s', notes) →
        ∀ key k, .keyed (.missed key k) ∉ notes := by
  have forward := run_forward run
  have hvalidity := forward.valid_until ended
  have stored := (run_kept run).stored n r _ ended hvalidity early
  have valid : (r.validity.check env).1 = true := by
    rw [hvalidity, Validity.check_expiresAt]
    exact early
  refine ⟨forward.at_hand stored valid, fun e env' s' notes hs key k missed => ?_⟩
  have t := step_transition hs
  obtain ⟨ke, rfl⟩ := t.keyed_of_told missed
  obtain ⟨-, known, kt, told⟩ := t.of_keyed
  have called : k ∈ known.filterMap Cache.Note.called? :=
    List.mem_filterMap.2 ⟨_, (told _).1 missed, rfl⟩
  rw [(kt.idles forward.coherent stored valid forward.keys).1] at called
  cases called

/-- A fetched token is not wasted.

From where the round of a token has ended well, whatever has become of the refresh or the reader
that started it, and until the refresh instant of the token, the token can be had without a fetch,
and no fetch is called.  A reader that is given the token installs it at once.  A refresh that has
been given it, at whatever time, keeps it until it acts, and then installs it unless its timer is
not that of the cache any more. -/
theorem fetched_token_kept (run : (system cfg Clock).Run moves env s)
    (ended : s.keyed.outcome? n = some (.ok r))
    (path : (system cfg Clock).Path env s later env' s') :
    (env'.now < (heldOf n r).refreshAt →
      AtHand cfg env' s' n r ∧ ∀ m ∈ later, ∀ key k, .keyed (.missed key k) ∉ m.notes) ∧
    ∀ t, s'.tasks.get? t = some (.returned n (.ok r)) →
      ∀ e env'' s'' notes, step cfg env' s' e = some (env'', s'', notes) →
        (e ≠ .act (.refresh t) → s''.tasks.get? t = some (.returned n (.ok r))) ∧
        (e = .act (.refresh t) →
          (s'.timer.map Timer.id = some t →
            .installed (heldOf n r) ∈ notes ∧ s''.held = some (heldOf n r)) ∧
          (s'.timer.map Timer.id ≠ some t → notes = [.discarded t] ∧ s''.held = s'.held)) := by
  have coherent := (run_forward run).coherent
  obtain ⟨env₀, first⟩ := run
  constructor
  case left =>
    intro early
    refine ⟨(run_at_hand ⟨_, first.trans path⟩ (path_outcome path coherent ended) early).1, ?_⟩
    intro m hm key k
    obtain ⟨before, rest, rfl⟩ := List.append_of_mem hm
    obtain ⟨env₁, upTo, hs, after⟩ := path.cut rfl
    have sooner : m.env.now < (heldOf n r).refreshAt := by
      have passed := path_now_le after
      rw [(step_transition hs).now] at passed
      omega
    exact (run_at_hand ⟨_, first.trans upTo⟩ (path_outcome upTo coherent ended) sooner).2
      _ _ _ _ hs key k
  case right =>
    intro t there e env'' s'' notes hs
    have forward := run_forward ⟨_, first.trans path⟩
    refine ⟨(step_transition hs).keeps_returned forward.orderly forward.tethered there, ?_⟩
    rintro rfl
    exact (step_transition hs).acts_on_returned there

end Run

/-- A refresh is in flight when timers are turned off, and its token is discarded.  When timers are
turned on again the held token still lives.  The refresh of the new timer is given the token that
was discarded, and installs it. -/
theorem fetched_token_kept_restarted :
    ∃ cfg moves env s later env' s' r, (system cfg Clock).Run moves env s ∧
      (∃ m ∈ moves, .discarded 0 ∈ m.notes) ∧ s.timer = none ∧
      s.held.map Held.round = some 0 ∧ s.keyed.outcome? 1 = some (.ok r) ∧
      (system cfg Clock).Path env s later env' s' ∧ AtHand cfg env' s' 1 r ∧
      (∀ m ∈ later, ∀ key k, .keyed (.missed key k) ∉ m.notes) ∧
      ∃ s'' notes, step cfg env' s' (.act (.refresh 1)) = some (env', s'', notes) ∧
        s''.held = some (heldOf 1 r) := by
  let cfg : Config :=
    { name := "token", parameters := .empty, lead := 10, backoff := { base := 1, limit := 8 } }
  have fetched : (system cfg Clock).Path .start .start _ _ _ :=
    .of_replay [.enter 0 .get, .act (.caller 0), .keyed (.look (.caller 0) .empty),
      .keyed (.decide (.caller 0)),
      .keyed (.finish 0 (.returned (.ok (Token.toResource ⟨"first", 100⟩ 0)))),
      .keyed (.settle (.caller 0))] rfl
  have due := fetched.wait (show (system cfg Clock).world _ _ (Surroundings.start.pass 90) from
    Nat.zero_le 90)
  have superseded := due.trans (.of_replay [.fire 0, .keyed (.look (.refresh 0) .empty),
    .keyed (.decide (.refresh 0)), .enter 1 .stop, .act (.caller 1),
    .keyed (.finish 1 (.returned (.ok (Token.toResource ⟨"second", 300⟩ 1)))),
    .keyed (.settle (.refresh 0)), .act (.refresh 0)] rfl)
  have here : ∀ {moves env s}, (system cfg Clock).Path .start .start moves env s →
      (system cfg Clock).Path env s [] env s := fun _ => .nil
  have restarted := (here superseded).trans (.of_replay [.enter 2 .start, .act (.caller 2),
    .fire 1, .keyed (.look (.refresh 1) .empty)] rfl)
  obtain ⟨atHand, installs⟩ := fetched_token_kept (n := 1) ⟨_, superseded⟩ rfl restarted
  obtain ⟨hand, uncalled⟩ := atHand (by decide)
  have acts := ((installs 1 rfl _ _ _ _ rfl).2 rfl).1 rfl
  exact ⟨cfg, _, _, _, _, _, _, _, ⟨_, superseded⟩,
    ⟨_, List.mem_append_right _ (List.mem_of_getElem? (show _[7]? = some _ from rfl)), .head _⟩,
    rfl, rfl, rfl, restarted, hand, uncalled, _, _, rfl, acts.2⟩

end TokenCache
end SingleFlight
