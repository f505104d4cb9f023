import SingleFlight.Proofs.Cache.Origins
import SingleFlight.Proofs.TokenCache.Freshness
import SingleFlight.Proofs.TokenCache.Line

/-!
The held token only moves forward.

Tokens are told apart by the rounds that fetched them.  Two agents may be about to bring one: the
reader that has the lock and fetches, and the refresh of the timer of the cache.  Whichever of them
waits for a round, or has its outcome, has one that is later than the round of the held token
(`Forward.ahead`).  It asked when the held token was due, so the keyed cache did not answer it with
this token (`Forward.answered_newer`), and the entry of the key is never of an earlier round.

Once one of the two has brought its token the other does not count any more: nobody else fetches,
and the timer is a new one.
-/

namespace SingleFlight
namespace TokenCache

namespace State

/-- The agent waits for the round, or has its outcome and has yet to act. -/
def Waits (s : State) (a : Agent) (n : Nat) : Prop :=
  (∃ key, s.keyed.callers.get? a = some (.awaiting key n)) ∨
    ∃ t outcome, a = .refresh t ∧ s.tasks.get? t = some (.returned n outcome)

/-- What the agent brings is installed: what a reader fetches always, what a refresh fetches if its
timer is the timer of the cache. -/
def Counts (s : State) : Agent → Prop
  | .caller _ => True
  | .refresh t => s.timer.map Timer.id = some t

end State

open State

/-- The held token, those who are about to replace it, and the keyed cache fit together. -/
structure Forward (cfg : Config) (now : Nat) (s : State) : Prop where
  coherent : Cache.Coherent s.keyed
  orderly : Orderly s
  tethered : Tethered now s
  inLine : InLine now s
  keys : ∀ a stage, s.keyed.callers.get? a = some stage → stage.key = cfg.parameters
  bounded : ∀ round r, s.keyed.outcome? round = some (.ok r) →
    ∃ due, r.validity = .expiresAt due ∧ due ≤ r.value.expiresAt
  returned : ∀ t n outcome, s.tasks.get? t = some (.returned n outcome) →
    s.keyed.outcome? n = some outcome
  reached : ∀ a n, s.Waits a n → s.keyed.Reached cfg.parameters n
  held : ∀ h, s.held = some h → s.keyed.Reached cfg.parameters h.round ∧
    ∃ r, s.keyed.outcome? h.round = some (.ok r) ∧ h = heldOf h.round r
  ahead : ∀ a n, s.Waits a n → s.Counts a → ∀ h, s.held = some h → h.round < n

/-- A token is due when its resource is not valid any more. -/
theorem refreshAt_heldOf {n due : Nat} {r : Resource Token} (h : r.validity = .expiresAt due) :
    (heldOf n r).refreshAt = due := by
  simp [heldOf, Token.refreshAt, h, Validity.expiry?]

namespace Forward

variable {cfg : Config} {env env' : Surroundings} {s : State} {a : Agent} {n : Nat}
  {key : ParameterSet} {k : Cache.State Agent ParameterSet Token}
  {ke : Cache.Event Agent ParameterSet Token} {known : List (Cache.Note Agent ParameterSet Token)}

theorem start (now : Nat) : Forward cfg now .start where
  coherent := .empty
  orderly := .start
  tethered := ⟨nofun, nofun, nofun, nofun, nofun, nofun⟩
  inLine := .start now
  keys _ _ h := by cases h
  bounded _ _ h := by cases h
  returned _ _ _ h := by cases h
  reached _ _ h := by
    rcases h with ⟨_, h⟩ | ⟨_, _, _, h⟩ <;> cases h
  held _ h := by cases h
  ahead _ _ _ _ _ h := by cases h

theorem later {now later : Nat} (h : Forward cfg now s) (hle : now ≤ later) :
    Forward cfg later s :=
  { h with tethered := h.tethered.later hle, inLine := h.inLine.later hle }

/-- The resource of a round that ended well is valid until its token is due. -/
theorem valid_until (h : Forward cfg env.now s) {r : Resource Token}
    (ended : s.keyed.outcome? n = some (.ok r)) :
    r.validity = .expiresAt (heldOf n r).refreshAt := by
  obtain ⟨due, hvalidity, -⟩ := h.bounded n r ended
  rw [refreshAt_heldOf hvalidity, hvalidity]

/-- The held token is that of a round which ended well, valid until the token is due. -/
theorem due (h : Forward cfg env.now s) {held : Held} (hheld : s.held = some held) :
    ∃ r, s.keyed.outcome? held.round = some (.ok r) ∧ r.validity = .expiresAt held.refreshAt ∧
      held.refreshAt ≤ held.token.expiresAt := by
  obtain ⟨-, r, ended, eq⟩ := h.held held hheld
  obtain ⟨due, hvalidity, hdue⟩ := h.bounded held.round r ended
  have same : held.refreshAt = due := by
    rw [eq, refreshAt_heldOf hvalidity]
  have token : held.token = r.value := by
    rw [eq]
    rfl
  exact ⟨r, ended, by rw [hvalidity, same], by rw [same, token]; exact hdue⟩

/-- Who has a request to make that counts, makes it when the held token is due. -/
theorem overdue (h : Forward cfg env.now s) (requests : s.mayRequest a = true) (counts : s.Counts a)
    {held : Held} (hheld : s.held = some held) : held.refreshAt ≤ env.now := by
  cases a with
  | caller n =>
    obtain ⟨-, -, -, hdue⟩ := h.due hheld
    have fetching := h.inLine.fetching n (mayRequest_caller.1 requests)
    have expired := usable?_eq_none_iff.1 fetching.2 held hheld
    omega
  | refresh t =>
    exact h.tethered.refreshAt_le (mayRequest_refresh.1 requests) rfl counts hheld

theorem looks_key (h : Forward cfg env.now s) (permits : s.Permits cfg ke) {now : Nat}
    {way : Cache.Path} (looks : Cache.Looks s.keyed a key (arriving cfg now ke) way) :
    key = cfg.parameters := by
  cases ke with
  | look _ _ =>
    cases looks
    exact permits.2
  | decide _ =>
    cases looks with
    | second undecided => exact h.keys _ _ undecided
  | finish _ _ | settle _ | drop _ => cases looks

theorem answered_key (h : Forward cfg env.now s) (permits : s.Permits cfg ke)
    (t : Cache.Transition ParameterSet.text env s.keyed (arriving cfg env.now ke) env' k known)
    {o : Outcome (Resource Token)} (ha : .answered a key n o ∈ known) : key = cfg.parameters := by
  rcases t.answered ha with ⟨_, _, -, looks, -⟩ | ⟨-, awaits, -⟩
  · exact h.looks_key permits looks
  · exact h.keys _ _ awaits

/-- An answer that counts stems from a later round than the held token. -/
theorem answered_newer (h : Forward cfg env.now s) (permits : s.Permits cfg ke)
    (t : Cache.Transition ParameterSet.text env s.keyed (arriving cfg env.now ke) env' k known)
    {o : Outcome (Resource Token)} (ha : .answered a key n o ∈ known) (counts : s.Counts a)
    {held : Held} (hheld : s.held = some held) : held.round < n := by
  obtain rfl := h.answered_key permits t ha
  obtain ⟨reached, -⟩ := h.held held hheld
  obtain ⟨r, ended, hvalidity, -⟩ := h.due hheld
  rcases t.answered_later h.coherent reached ended ha with awaits | later | valid
  · exact h.ahead a n (.inl ⟨_, awaits⟩) counts held hheld
  · exact later
  -- The held token itself would have to be valid, but it is due.
  · rw [hvalidity, Validity.check_expiresAt] at valid
    have overdue := h.overdue (h.orderly.answered permits t ha) counts hheld
    omega

end Forward

namespace Brings

variable {cfg : Config} {env : Surroundings} {s : State} {a : Agent} {round : Nat}
  {r : Resource Token}

theorem ended (b : Brings cfg env s a round r) (h : Forward cfg env.now s) :
    s.keyed.Reached cfg.parameters round ∧ s.keyed.outcome? round = some (.ok r) := by
  cases b with
  | @returned t _ _ returns _ =>
    exact ⟨h.reached (.refresh t) round (.inr ⟨t, _, rfl, returns.returned⟩),
      h.returned t round _ returns.returned⟩
  | answered permits t ha =>
    obtain rfl := h.answered_key permits t ha
    refine ⟨?_, t.answered_ended h.coherent ha⟩
    rcases t.answered_reached h.coherent ha with awaits | reached
    · exact h.reached _ round (.inl ⟨_, awaits⟩)
    · exact reached

theorem newer (b : Brings cfg env s a round r) (h : Forward cfg env.now s) {held : Held}
    (hheld : s.held = some held) : held.round < round := by
  cases b with
  | @returned t _ _ returns counts =>
    exact h.ahead (.refresh t) round (.inr ⟨t, _, rfl, returns.returned⟩) counts held hheld
  | answered permits t ha => exact h.answered_newer permits t ha trivial hheld

end Brings

/-! ## One step -/

section Step

variable {cfg : Config} {env env' : Surroundings} {s s' : State} {e : Event} {notes : List Note}
  {a : Agent} {n : Nat}

theorem Transition.reached (t : Transition cfg env s e env' s' notes) {key : ParameterSet}
    (h : s.keyed.Reached key n) : s'.keyed.Reached key n :=
  t.keyed_keeps (P := fun k => k.Reached key n) h (fun _ => ⟨h.started, h.entry⟩)
    fun _ _ _ t => t.reached h

theorem Transition.outcome?_stays (t : Transition cfg env s e env' s' notes)
    (h : Cache.Coherent s.keyed) {o : Outcome (Resource Token)}
    (ho : s.keyed.outcome? n = some o) : s'.keyed.outcome? n = some o :=
  t.keyed_keeps (P := fun k => k.outcome? n = some o) ho (fun _ => ho)
    fun _ _ _ t => t.outcome?_stays h ho

theorem Transition.bounded (t : Transition cfg env s e env' s' notes)
    (h : Forward cfg env.now s) : ∀ round r, s'.keyed.outcome? round = some (.ok r) →
      ∃ due, r.validity = .expiresAt due ∧ due ≤ r.value.expiresAt := by
  refine t.keyed_keeps (P := fun k => ∀ round r, k.outcome? round = some (.ok r) →
    ∃ due, r.validity = .expiresAt due ∧ due ≤ r.value.expiresAt) h.bounded
    (fun _ => h.bounded) fun _ _ _ t round r ho => ?_
  rcases Windowed.arrived t ho with before | ⟨alive, hvalidity⟩
  · exact h.bounded round r before
  · exact ⟨_, hvalidity, Token.refreshInstant_le (Nat.le_of_lt alive)⟩

theorem Transition.keys (t : Transition cfg env s e env' s' notes) (h : Forward cfg env.now s) :
    ∀ a stage, s'.keyed.callers.get? a = some stage → stage.key = cfg.parameters := by
  refine t.keyed_keeps (P := fun k => ∀ a stage, k.callers.get? a = some stage →
    stage.key = cfg.parameters) h.keys ?_ ?_
  · exact fun _ a stage ha => h.keys a stage (Cache.State.get?_of_get?_leave ha).2
  · intro _ _ permits t a stage ha
    rcases t.at_work ha with before | ⟨way, looks, -⟩
    · exact h.keys a stage before
    · exact h.looks_key permits looks

theorem Transition.returned_outcome (t : Transition cfg env s e env' s' notes)
    (h : Forward cfg env.now s) (id n : Nat) (outcome : Outcome (Resource Token))
    (ht : s'.tasks.get? id = some (.returned n outcome)) :
    s'.keyed.outcome? n = some outcome := by
  refine t.outcome?_stays h.coherent ?_
  cases t.task_step ht with
  | stays before => exact h.returned id n outcome before
  | answered _ t ha => exact t.answered_ended h.coherent ha

theorem Transition.waits_from (t : Transition cfg env s e env' s' notes)
    (h : Forward cfg env.now s) (waits : s'.Waits a n) :
    s.Waits a n ∨ ∃ ke known, s.Permits cfg ke ∧
      Cache.Transition ParameterSet.text env s.keyed (arriving cfg env.now ke) env' s'.keyed known ∧
      (s'.keyed.callers.get? a = some (.awaiting cfg.parameters n) ∨
        ∃ outcome, .answered a cfg.parameters n outcome ∈ known) := by
  rcases waits with ⟨key, hc⟩ | ⟨id, outcome, rfl, ht⟩
  · obtain rfl : key = cfg.parameters := t.keys h a _ hc
    rcases t.on_keyed with ⟨-, same⟩ | ⟨-, m, -, left⟩ | ⟨ke, known, -, permits, step⟩
    · rw [same] at hc
      exact .inl (.inl ⟨_, hc⟩)
    · rw [left] at hc
      exact .inl (.inl ⟨_, (Cache.State.get?_of_get?_leave hc).2⟩)
    · exact .inr ⟨ke, known, permits, step, .inl hc⟩
  · cases t.task_step ht with
    | stays before => exact .inl (.inr ⟨id, outcome, rfl, before⟩)
    | @answered ke known _ _ _ permits step ha =>
      obtain rfl := h.answered_key permits step ha
      exact .inr ⟨ke, known, permits, step, .inr ⟨outcome, ha⟩⟩

theorem Transition.waits_reached (t : Transition cfg env s e env' s' notes)
    (h : Forward cfg env.now s) (a : Agent) (n : Nat) (waits : s'.Waits a n) :
    s'.keyed.Reached cfg.parameters n := by
  rcases t.waits_from h waits with before | ⟨_, _, -, step, hc | ⟨_, ha⟩⟩
  · exact t.reached (h.reached a n before)
  · rcases step.boarded_reached h.coherent hc with before | reached
    · exact t.reached (h.reached a n (.inl ⟨_, before⟩))
    · exact reached
  · rcases step.answered_reached h.coherent ha with awaits | reached
    · exact t.reached (h.reached a n (.inl ⟨_, awaits⟩))
    · exact t.reached reached

theorem Transition.waits_newer (t : Transition cfg env s e env' s' notes)
    (h : Forward cfg env.now s) (waits : s'.Waits a n) (counts : s.Counts a) {held : Held}
    (hheld : s.held = some held) : held.round < n := by
  rcases t.waits_from h waits with before | ⟨_, _, permits, step, hc | ⟨_, ha⟩⟩
  · exact h.ahead a n before counts held hheld
  · obtain ⟨reached, r, ended, -⟩ := h.held held hheld
    rcases step.boarded_later reached ended hc with before | later
    · exact h.ahead a n (.inl ⟨_, before⟩) counts held hheld
    · exact later
  · exact h.answered_newer permits step ha counts hheld

theorem State.Waits.requesting (orderly : Orderly s) (waits : s.Waits a n) :
    s.mayRequest a = true ∨ ∃ t outcome, a = .refresh t ∧
      s.tasks.get? t = some (.returned n outcome) := by
  rcases waits with ⟨key, hc⟩ | returned
  · exact .inl (orderly.atWork a _ hc)
  · exact .inr returned

/-- Where somebody waits and counts the held token has not changed. -/
theorem Transition.held_of_waits (t : Transition cfg env s e env' s' notes)
    (h : Forward cfg env.now s) (waits : s'.Waits a n) (counts : s'.Counts a) :
    s'.held = s.held ∧ s.Counts a := by
  have requesting := waits.requesting (t.orderly h.orderly)
  cases a with
  | caller m =>
    have fetching : s'.callers.get? m = some .fetching := by
      rcases requesting with requests | ⟨_, _, hne, -⟩
      · exact mayRequest_caller.1 requests
      · cases hne
    exact ⟨t.held_of_fetching h.inLine h.orderly fetching, trivial⟩
  | refresh id =>
    have awake : ∃ task, s'.tasks.get? id = some task ∧ task.isSleeping = false := by
      rcases requesting with requests | ⟨_, _, hid, ht⟩
      · exact ⟨_, mayRequest_refresh.1 requests, rfl⟩
      · cases hid
        exact ⟨_, ht, rfl⟩
    obtain ⟨task, ht, awake⟩ := awake
    have current : s'.timer.map Timer.id = some id := counts
    rcases t.arming h.tethered with ⟨firesAt, arms, -⟩ | ⟨rests, -⟩
    · rw [arms.timer] at current
      obtain rfl : s.nextTimer = id := Option.some.inj current
      rw [arms.asleep h.tethered (t.tasks_from h.orderly) ht] at awake
      cases awake
    · obtain ⟨timer, htimer, rfl⟩ := Option.map_eq_some_iff.1 current
      obtain ⟨before, held, -⟩ := rests.timer_before htimer
      exact ⟨held, congrArg (Option.map Timer.id) before⟩

theorem Transition.held_ended (t : Transition cfg env s e env' s' notes)
    (h : Forward cfg env.now s) (held : Held) (hheld : s'.held = some held) :
    s'.keyed.Reached cfg.parameters held.round ∧
      ∃ r, s'.keyed.outcome? held.round = some (.ok r) ∧ held = heldOf held.round r := by
  rcases t.installing with ⟨same, -⟩ | ⟨_, round, r, brings, -, new, -⟩
  · rw [same] at hheld
    obtain ⟨reached, r, ended, eq⟩ := h.held held hheld
    exact ⟨t.reached reached, r, t.outcome?_stays h.coherent ended, eq⟩
  · obtain rfl : heldOf round r = held := Option.some.inj (new.symm.trans hheld)
    obtain ⟨reached, ended⟩ := brings.ended h
    exact ⟨t.reached reached, r, t.outcome?_stays h.coherent ended, rfl⟩

theorem Transition.forward (t : Transition cfg env s e env' s' notes) (h : Forward cfg env.now s) :
    Forward cfg env.now s' where
  coherent := t.coherent h.coherent
  orderly := t.orderly h.orderly
  tethered := t.tethered h.tethered h.orderly
  inLine := t.in_line h.inLine h.orderly h.tethered.unused
  keys := t.keys h
  bounded := t.bounded h
  returned := t.returned_outcome h
  reached := t.waits_reached h
  held := t.held_ended h
  ahead a n waits counts held hheld := by
    obtain ⟨same, counted⟩ := t.held_of_waits h waits counts
    rw [same] at hheld
    exact t.waits_newer h waits counted hheld

end Step

/-! ## Runs -/

section Run

variable {cfg : Config} {moves : List (Move State Event Note)} {env env₀ : Surroundings}
  {s s₀ : State}

theorem path_forward (path : (system cfg Clock).Path env₀ s₀ moves env s)
    (forward : Forward cfg env₀.now s₀) : Forward cfg env.now s := by
  refine path.keeps (P := fun env s => Forward cfg env.now s) (fun h hle => h.later hle)
    (fun h hs => ?_) forward
  have t := step_transition hs
  rw [t.now]
  exact t.forward h

theorem run_forward (run : (system cfg Clock).Run moves env s) : Forward cfg env.now s := by
  obtain ⟨env₀, path⟩ := run
  exact path_forward path (.start env₀.now)

/-- The held token is the last that was installed, and is of a later round than all before. -/
theorem run_installed (run : (system cfg Clock).Run moves env s) :
    ((installed moves).map Held.round).Pairwise (· < ·) ∧ s.held = (installed moves).getLast? ∧
      ∀ h ∈ installed moves, (∃ held, s.held = some held ∧ h.round ≤ held.round) ∧
        ∃ r, s.keyed.outcome? h.round = some (.ok r) ∧ h = heldOf h.round r := by
  obtain ⟨env₀, path⟩ := run
  induction path with
  | nil => exact ⟨.nil, rfl, nofun⟩
  | wait _ _ ih => exact ih
  | @move moves env env' s s' e notes path hs ih =>
    obtain ⟨ordered, last, earlier⟩ := ih
    have t := step_transition hs
    have forward := run_forward ⟨_, path⟩
    have happend : ∀ m, installed (moves ++ [m]) =
        installed moves ++ m.notes.filterMap Note.installed? := by
      intro m
      simp [installed]
    have kept : ∀ h ∈ installed moves,
        ∃ r, s'.keyed.outcome? h.round = some (.ok r) ∧ h = heldOf h.round r := by
      intro h hm
      obtain ⟨-, r, ended, eq⟩ := earlier h hm
      exact ⟨r, t.outcome?_stays forward.coherent ended, eq⟩
    rw [happend]
    rcases t.installing with ⟨same, none⟩ | ⟨a, round, r, brings, -, new, one⟩
    · rw [none, List.append_nil, same]
      exact ⟨ordered, last, fun h hm => ⟨(earlier h hm).1, kept h hm⟩⟩
    · rw [one, new]
      have below : ∀ h ∈ installed moves, h.round < round := by
        intro h hm
        obtain ⟨⟨held, hheld, hle⟩, -⟩ := earlier h hm
        have newer := brings.newer forward hheld
        omega
      refine ⟨?_, by simp, fun h hm => ?_⟩
      · rw [List.map_append, List.pairwise_append]
        refine ⟨ordered, List.pairwise_singleton _ _, fun x hx y hy => ?_⟩
        obtain ⟨h, hm, rfl⟩ := List.mem_map.1 hx
        obtain rfl := List.mem_singleton.1 hy
        exact below h hm
      · rcases List.mem_append.1 hm with hm | hm
        · exact ⟨⟨_, rfl, Nat.le_of_lt (below h hm)⟩, kept h hm⟩
        · obtain rfl := List.mem_singleton.1 hm
          have ended := t.outcome?_stays forward.coherent (brings.ended forward).2
          exact ⟨⟨_, rfl, Nat.le_refl _⟩, r, ended, rfl⟩

/-- The held token only moves forward.

The tokens that a run installs are of later and later rounds, each what its round fetched, and the
held token is the last of them.  And while the timer of a refresh is the timer of the cache, the
keyed cache answers the refresh with a later round than that of the held token: each of its looks
starts a round, joins one that runs, or finds a token that is newer, unless it has to look again. -/
theorem held_moves_forward (run : (system cfg Clock).Run moves env s) :
    ((installed moves).map Held.round).Pairwise (· < ·) ∧
    s.held = (installed moves).getLast? ∧
    (∀ h ∈ installed moves, ∃ r, s.keyed.outcome? h.round = some (.ok r) ∧ h = heldOf h.round r) ∧
    ∀ m ∈ moves, ∀ t, m.before.timer.map Timer.id = some t →
      (∀ key n outcome, .keyed (.answered (.refresh t) key n outcome) ∈ m.notes →
        ∀ h, m.before.held = some h → h.round < n) ∧
      ∀ ke key way, m.event = .keyed ke → Cache.Looks m.before.keyed (.refresh t) key ke way →
        (∃ n, .keyed (.missed key n) ∈ m.notes) ∨
        (∃ n, m.before.keyed.Running key n ∧
          m.after.keyed.callers.get? (.refresh t) = some (.awaiting key n)) ∨
        (∃ n r, .keyed (.answered (.refresh t) key n (.ok r)) ∈ m.notes ∧
          ∀ h, m.before.held = some h → h.round < n) ∨
        way = .firstLook ∧ m.after.keyed.callers.get? (.refresh t) = some (.undecided key) := by
  obtain ⟨ordered, last, fetched⟩ := run_installed run
  refine ⟨ordered, last, fun h hm => (fetched h hm).2, fun m hm t current => ?_⟩
  obtain ⟨_, _, _, -, first, hs, -⟩ := run.cut_of_mem hm
  have forward := run_forward first
  have newer : ∀ key n outcome, .keyed (.answered (.refresh t) key n outcome) ∈ m.notes →
      ∀ h, m.before.held = some h → h.round < n := by
    intro key n outcome ha h hheld
    have step := step_transition hs
    obtain ⟨ke, hevent⟩ := step.keyed_of_told ha
    rw [hevent] at step
    obtain ⟨permits, known, step, told⟩ := step.of_keyed
    exact forward.answered_newer permits step ((told _).1 ha) current hheld
  refine ⟨newer, fun ke key way hevent looks => ?_⟩
  have step := step_transition hs
  rw [hevent] at step
  obtain ⟨-, known, step, told⟩ := step.of_keyed
  rcases step.looked forward.coherent (looks_arriving.2 looks) with
    ⟨n, missed⟩ | joined | ⟨n, r, ha⟩ | again
  · exact .inl ⟨n, (told _).2 missed⟩
  · exact .inr (.inl joined)
  · have ha' := (told _).2 ha
    exact .inr (.inr (.inl ⟨n, r, ha', newer key n _ ha'⟩))
  · exact .inr (.inr (.inr again))

end Run

/-- A refresh is in flight when the token expires, and a reader joins its round.  The reader
installs the token; the refresh is answered with it too, and discarded. -/
theorem held_moves_forward_joined :
    ∃ cfg moves env s, (system cfg Clock).Run moves env s ∧
      ((installed moves).map Held.round) = [0, 1] ∧ s.held.map Held.round = some 1 ∧
      (∃ m ∈ moves, .discarded 0 ∈ m.notes) ∧
      ∃ m ∈ moves, ∃ outcome, .keyed (.answered (.refresh 0) .empty 1 outcome) ∈ m.notes ∧
        ∀ h, m.before.held = some h → h.round < 1 := by
  let cfg : Config :=
    { name := "token", parameters := .empty, lead := 10, backoff := { base := 1, limit := 8 } }
  have fetched : (system cfg Clock).Path .start .start _ _ _ :=
    .of_replay [.enter 0 .get, .act (.caller 0), .keyed (.look (.caller 0) .empty),
      .keyed (.decide (.caller 0)),
      .keyed (.finish 0 (.returned (.ok (Token.toResource ⟨"first", 100⟩ 0)))),
      .keyed (.settle (.caller 0))] rfl
  have due := fetched.wait (show (system cfg Clock).world _ _ (Surroundings.start.pass 90) from
    Nat.zero_le 90)
  have asked := due.trans (.of_replay [.fire 0, .keyed (.look (.refresh 0) .empty),
    .keyed (.decide (.refresh 0))] rfl)
  have expired := asked.wait (show (system cfg Clock).world _ _ (Surroundings.start.pass 100) from
    (by decide : 90 ≤ 100))
  have joined := expired.trans (.of_replay [.enter 1 .get, .act (.caller 1),
    .keyed (.look (.caller 1) .empty),
    .keyed (.finish 1 (.returned (.ok (Token.toResource ⟨"second", 300⟩ 1))))] rfl)
  have both := joined.trans (.of_replay [.keyed (.settle (.refresh 0)),
    .keyed (.settle (.caller 1)), .act (.refresh 0)] rfl)
  have run : (system cfg Clock).Run _ _ _ := ⟨_, both⟩
  refine ⟨cfg, _, _, _, run, rfl, rfl, ?_, ?_⟩
  · exact ⟨_, List.mem_append_right _ (.tail _ (.tail _ (.head _))), .head _⟩
  · refine ⟨_, List.mem_append_right _ (.head _), _, .head _, ?_⟩
    have newer := (held_moves_forward run).2.2.2 _ (List.mem_append_right _ (.head _)) 0 rfl
    exact newer.1 .empty 1 _ (.head _)

end TokenCache
end SingleFlight
