import Mathlib.Data.List.Forall2
import SingleFlight.Proofs.Cache.Failed
import SingleFlight.Proofs.Stack.Composition
import SingleFlight.Proofs.TokenCache.Answers

/-!
A panic is a failure.

An ending is tamed if a panic is taken for the failure that has its text (`Ending.Tamed`).  A cache
looks at an ending once, when it notes the outcome of the round, and a panic and the failure that
stands for it have the same outcome.  So the events are the same for every step, in the keyed cache
and in the token cache, and a path stays one, move by move, if some of its panics are tamed
(`System.Path.recast`).  In a stack of caches the source may be tamed instead
(`Stack.State.Tamed.play`).

A round that panicked is a round that failed, and `Cache.State.Spent` says what that comes to.
-/

namespace SingleFlight

/-- The other ending is the same, or the failure that stands for a panic: it has the text of the
panic, or says that there is none. -/
inductive Ending.Tamed {α : Type} : Ending α → Ending α → Prop where
  | same (ending : Ending α) : Tamed ending ending
  | panic (message : String) :
      Tamed (.panicked (some message))
        (.returned (.error (.plain ("fetcher panicked: " ++ message))))
  | wordless :
      Tamed (.panicked none)
        (.returned (.error (.plain "fetcher panicked: non-string panic payload")))

theorem Ending.Tamed.outcome {α : Type} {ending ending' : Ending α} (h : ending.Tamed ending')
    (parameters : String) : ending'.outcome parameters = ending.outcome parameters := by
  cases h with
  | same => rfl
  -- The error of the panic, and what the failure is classified as.
  | panic message => rfl
  | wordless => rfl

/-- A panic passes the refresh window as it is, and so does a failure. -/
theorem Ending.Tamed.windowed {ending ending' : Ending (Resource Token)} (h : ending.Tamed ending')
    (now lead : Nat) :
    (Token.windowed now lead ending).Tamed (Token.windowed now lead ending') := by
  cases h with
  | same => exact .same _
  | panic message => exact .panic message
  | wordless => exact .wordless

/-! ## Events -/

/-- The event is the same, but for a fetch that may be tamed. -/
inductive Cache.Event.Tamed {ι κ α : Type} : Event ι κ α → Event ι κ α → Prop where
  | same (e : Event ι κ α) : Tamed e e
  | finish (n : Nat) {ending ending' : Ending (Resource α)} :
      ending.Tamed ending' → Tamed (.finish n ending) (.finish n ending')

inductive TokenCache.Event.Tamed : Event → Event → Prop where
  | same (e : Event) : Tamed e e
  | keyed {e e' : Cache.Event Agent ParameterSet Token} :
      e.Tamed e' → Tamed (.keyed e) (.keyed e')

theorem Cache.Event.Tamed.step {ι κ α : Type} [DecidableEq ι] [DecidableEq κ]
    {e e' : Event ι κ α} (h : e.Tamed e') (describe : κ → String) (env : Surroundings)
    (s : State ι κ α) : Cache.step describe env s e' = Cache.step describe env s e := by
  cases h with
  | same => rfl
  | finish n tamed => simp only [Cache.step, tamed.outcome]

theorem Cache.Event.Tamed.arriving {e e' : Event TokenCache.Agent ParameterSet Token}
    (h : e.Tamed e') (cfg : TokenCache.Config) (now : Nat) :
    (TokenCache.arriving cfg now e).Tamed (TokenCache.arriving cfg now e') := by
  cases h with
  | same => exact .same _
  | finish n tamed => exact .finish n (tamed.windowed now cfg.lead)

theorem TokenCache.Event.Tamed.step {e e' : Event} (h : e.Tamed e') (cfg : Config)
    (env : Surroundings) (s : State) :
    TokenCache.step cfg env s e' = TokenCache.step cfg env s e := by
  cases h with
  | same => rfl
  | keyed tamed =>
    cases tamed with
    | same => rfl
    | finish n tamed =>
      have arrives := (Cache.Event.Tamed.finish n tamed).arriving cfg env.now
      simp only [TokenCache.step, keyedStep, arrives.step]

/-! ## Paths -/

/-- The other move is the same, but for an event that is related to its own. -/
def Move.Recast {σ ε ν : Type} (R : ε → ε → Prop) (m m' : Move σ ε ν) : Prop :=
  ∃ e, R m.event e ∧ m' = { m with event := e }

theorem Move.recast_refl {σ ε ν : Type} {R : ε → ε → Prop} (refl : ∀ e, R e e)
    (moves : List (Move σ ε ν)) : List.Forall₂ (Move.Recast R) moves moves :=
  List.forall₂_same.2 fun m _ => ⟨m.event, refl m.event, rfl⟩

/-- Events that do the same in every state may be exchanged for each other all along a path. -/
theorem System.Path.recast {σ ε ν : Type} {S : System σ ε ν} {R : ε → ε → Prop}
    (same : ∀ env s {e e'}, R e e' → S.step env s e' = S.step env s e) {env₀ env : Surroundings}
    {s₀ s : σ} {moves moves' : List (Move σ ε ν)} (path : S.Path env₀ s₀ moves env s)
    (recast : List.Forall₂ (Move.Recast R) moves moves') : S.Path env₀ s₀ moves' env s := by
  induction recast generalizing env₀ s₀ with
  | nil => exact path
  | @cons m m' rest rest' hm _ ih =>
    obtain ⟨e', related, rfl⟩ := hm
    obtain ⟨env', first, hs, second⟩ := path.cut (show m :: rest = [] ++ m :: rest from rfl)
    have step' := (same m.env m.before related).trans hs
    exact (first.move step').trans (ih second)

/-! ## Stacks -/

/-- The other fetch can end from the same instant on, and it ends alike, but for a panic that may be
tamed. -/
structure Fetch.Tamed {α : Type} (f f' : Fetch α) : Prop where
  due : f'.due = f.due
  severs : f'.severs = f.severs
  env : ∀ env, (f'.ending env).1 = (f.ending env).1
  ending : ∀ env, (f.ending env).2.Tamed (f'.ending env).2

structure Source.Tamed {σ κ α : Type} (src src' : Source σ κ α) : Prop where
  fetch : ∀ memory key now, (src.call memory key now).1.Tamed (src'.call memory key now).1
  memory : ∀ memory key now, (src'.call memory key now).2 = (src.call memory key now).2

namespace Stack

variable {σ κ α β : Type} [DecidableEq κ]

/-- The other state is the same, but for fetches that may be tamed. -/
def State.Tamed (s s' : State σ κ α) : Prop :=
  ∃ fetches, s' = { s with fetches := fetches } ∧
    ∀ n, Option.Rel Fetch.Tamed (s.fetches.get? n) (fetches.get? n)

/-- Both come to the same, but for fetches that may be tamed. -/
inductive Alike : State σ κ α × β → State σ κ α × β → Prop where
  | intro {s s' : State σ κ α} {b : β} : s.Tamed s' → Alike (s, b) (s', b)

omit [DecidableEq κ] in
theorem Alike.state {r r' : State σ κ α × β} (h : Alike r r') : r.1.Tamed r'.1 := by
  obtain ⟨tamed⟩ := h
  exact tamed

section Tamed

variable {describe : κ → String} {src src' : Source σ κ α} {s s' : State σ κ α}

omit [DecidableEq κ] in
theorem State.Tamed.refl (s : State σ κ α) (none : ∀ n, s.fetches.get? n = none) : s.Tamed s :=
  ⟨s.fetches, rfl, fun n => by rw [none n]; exact .none⟩

omit [DecidableEq κ] in
theorem State.Tamed.layers (h : s.Tamed s') : s'.layers = s.layers := by
  obtain ⟨fetches, rfl, -⟩ := h
  rfl

omit [DecidableEq κ] in
theorem State.Tamed.env (h : s.Tamed s') : s'.env = s.env := by
  obtain ⟨fetches, rfl, -⟩ := h
  rfl

omit [DecidableEq κ] in
theorem State.Tamed.fetches (h : s.Tamed s') (n : Nat) :
    Option.Rel Fetch.Tamed (s.fetches.get? n) (s'.fetches.get? n) := by
  obtain ⟨fetches, rfl, rel⟩ := h
  exact rel n

omit [DecidableEq κ] in
theorem State.Tamed.called (h : s.Tamed s') : s'.called = s.called := by
  obtain ⟨fetches, rfl, -⟩ := h
  rfl

omit [DecidableEq κ] in
theorem State.Tamed.stage? (h : s.Tamed s') (height : Nat) (c : Caller) :
    s'.stage? height c = s.stage? height c := by
  unfold State.stage?
  rw [h.layers]

variable (describe) in
theorem State.Tamed.apply (h : s.Tamed s') (height : Nat) {e e' : Cache.Event Caller κ α}
    (he : e.Tamed e') :
    Alike (s.apply describe height e) (s'.apply describe height e') := by
  obtain ⟨fetches, rfl, rel⟩ := h
  unfold State.apply
  cases s.layers[height]? with
  | none => exact .intro ⟨fetches, rfl, rel⟩
  | some layer =>
    dsimp only
    rw [he.step]
    cases Cache.step describe s.env layer e with
    | none => exact .intro ⟨fetches, rfl, rel⟩
    | some result => exact .intro ⟨fetches, rfl, rel⟩

omit [DecidableEq κ] in
theorem State.Tamed.callSource (h : s.Tamed s') (tamed : src.Tamed src') (key : κ) (n : Nat) :
    (s.callSource src key n).Tamed (s'.callSource src' key n) := by
  obtain ⟨fetches, rfl, rel⟩ := h
  refine ⟨fetches.insert n (src'.call s.memory key s.env.now).1, ?_, fun m => ?_⟩
  · simp only [State.callSource, tamed.memory]
  · simp only [State.callSource]
    rw [Table.get?_insert, Table.get?_insert]
    split
    · exact .some (tamed.fetch _ _ _)
    · exact rel m

variable (describe) in
theorem State.Tamed.look (h : s.Tamed s') (height : Nat) (c : Caller) (key : κ) :
    Alike (s.look describe height c key) (s'.look describe height c key) := by
  unfold State.look
  rw [h.stage?]
  cases s.stage? height c with
  | none => exact h.apply describe height (.same _)
  | some stage => exact .intro h

variable (describe) in
theorem State.Tamed.decide (h : s.Tamed s') (tamed : src.Tamed src') (height : Nat) (c : Caller)
    (key : κ) :
    Alike (s.decide describe src height c key) (s'.decide describe src' height c key) := by
  unfold State.decide
  rw [h.stage?]
  cases s.stage? height c with
  | none => exact .intro h
  | some stage =>
    cases stage with
    | awaiting key' n => exact .intro h
    | undecided key' =>
      have applied := h.apply describe height (.same (.decide c))
      generalize s.apply describe height (.decide c) = r at applied
      generalize s'.apply describe height (.decide c) = r' at applied
      obtain @⟨s₁, s₁', answer, h₁⟩ := applied
      simp only [h.layers, h₁.layers]
      split
      · split
        · exact .intro (h₁.callSource tamed key _)
        · exact .intro h₁
      · exact .intro h₁

theorem State.Tamed.settle (h : s.Tamed s') (height : Nat) (c : Caller) :
    Alike (s.settle describe height c) (s'.settle describe height c) := by
  have applied := h.apply describe height (.same (.settle c))
  unfold State.settle
  generalize s.apply describe height (.settle c) = r at applied
  generalize s'.apply describe height (.settle c) = r' at applied
  obtain @⟨s₁, s₁', answer, h₁⟩ := applied
  cases answer with
  | none => exact .intro h₁
  | some o => exact .intro h₁

omit [DecidableEq κ] in
/-- The fetch is over, and the surroundings are what it made of them. -/
theorem State.Tamed.took (h : s.Tamed s') (env : Surroundings) (n : Nat) :
    ({ s with env := env, fetches := s.fetches.erase n } : State σ κ α).Tamed
      { s' with env := env, fetches := s'.fetches.erase n } := by
  obtain ⟨fetches, rfl, rel⟩ := h
  refine ⟨fetches.erase n, rfl, fun m => ?_⟩
  rw [Table.get?_erase, Table.get?_erase]
  split
  · exact .none
  · exact rel m

/-- A round is ended, and the caller settles it. -/
theorem State.Tamed.finish_settle (h : s.Tamed s') (height : Nat) (c : Caller) (n : Nat)
    {ending ending' : Ending (Resource α)} (he : ending.Tamed ending') :
    Alike ((s.apply describe height (.finish n ending)).1.settle describe height c)
      ((s'.apply describe height (.finish n ending')).1.settle describe height c) := by
  have applied := h.apply describe height (.finish n he)
  generalize s.apply describe height (.finish n ending) = r at applied
  generalize s'.apply describe height (.finish n ending') = r' at applied
  obtain @⟨s₁, s₁', answer, h₁⟩ := applied
  exact h₁.settle height c

/-- A poll comes to the same if the polls of the cache below do. -/
theorem State.Tamed.poll_of_below (h : s.Tamed s') (tamed : src.Tamed src') (hold : Bool)
    (height : Nat) (c : Caller) (key : κ)
    (below : ∀ k, height = k + 1 → ∀ {s s' : State σ κ α} (c : Caller), s.Tamed s' →
      Alike (s.poll describe src hold k c key) (s'.poll describe src' hold k c key)) :
    Alike (s.poll describe src hold height c key) (s'.poll describe src' hold height c key) := by
  unfold State.poll
  have looked := h.look describe height c key
  generalize s.look describe height c key = r at looked
  generalize s'.look describe height c key = r' at looked
  obtain @⟨s₁, s₁', answer, h₁⟩ := looked
  cases answer with
  | some o => exact .intro h₁
  | none =>
    dsimp only
    have decided := h₁.decide describe tamed height c key
    generalize s₁.decide describe src height c key = r at decided
    generalize s₁'.decide describe src' height c key = r' at decided
    obtain @⟨s₂, s₂', ⟨answer, started⟩, h₂⟩ := decided
    cases answer with
    | some o => exact .intro h₂
    | none =>
      dsimp only
      rw [h₂.stage?]
      cases s₂.stage? height c with
      | none => exact .intro h₂
      | some stage =>
        cases stage with
        | undecided key' => exact .intro h₂
        | awaiting key' n =>
          dsimp only
          rw [h₂.layers]
          cases s₂.layers[height]?.bind fun layer => layer.outcome? n with
          | some o => exact h₂.settle height c
          | none =>
            cases height with
            | zero =>
              have calls := h₂.fetches n
              obtain ⟨fetches, rfl, -⟩ := id h₂
              dsimp only at calls ⊢
              generalize s₂.fetches.get? n = fetch at calls
              generalize fetches.get? n = fetch' at calls
              cases calls with
              | none => exact .intro h₂
              | @some fetch fetch' ends =>
                have took := h₂.took (fetch.ending s₂.env).1 n
                dsimp only at took ⊢
                rw [ends.due, ends.severs, ends.env]
                split
                · split
                  · exact .intro (took.apply describe 0 (.finish n (ends.ending s₂.env))).state
                  · split
                    · exact .intro (took.apply describe 0 (.finish n (ends.ending s₂.env))).state
                    · exact took.finish_settle 0 c n (ends.ending s₂.env)
                · exact .intro h₂
            | succ k =>
              have polled := below k rfl (.round n) h₂
              dsimp only
              generalize s₂.poll describe src hold k (.round n) key = r at polled
              generalize s₂'.poll describe src' hold k (.round n) key = r' at polled
              obtain @⟨s₃, s₃', progress, h₃⟩ := polled
              cases progress with
              | answered o => exact h₃.finish_settle (k + 1) c n (.same _)
              | waiting due => exact .intro h₃
              | severed => exact .intro h₃
              | held => exact .intro h₃

variable (describe) in
theorem State.Tamed.poll (h : s.Tamed s') (tamed : src.Tamed src') (hold : Bool) (height : Nat)
    (c : Caller) (key : κ) :
    Alike (s.poll describe src hold height c key) (s'.poll describe src' hold height c key) := by
  induction height generalizing s s' c with
  | zero => exact h.poll_of_below tamed hold 0 c key nofun
  | succ height ih =>
    refine h.poll_of_below tamed hold (height + 1) c key fun k hk _ _ c h => ?_
    obtain rfl : height = k := Nat.succ.inj hk
    exact ih h c

variable (describe) in
theorem State.Tamed.turn (h : s.Tamed s') (tamed : src.Tamed src') (height : Nat)
    (turn : Turn κ) :
    Alike (s.turn describe src height turn) (s'.turn describe src' height turn) := by
  cases turn with
  | look client key => exact h.look describe height (.client client) key
  | poll client key =>
    have goal : s'.keyOf height (.client client) key = s.keyOf height (.client client) key := by
      unfold State.keyOf
      rw [h.stage?]
    dsimp only [State.turn]
    rw [goal]
    have polled := h.poll describe tamed false height (.client client)
      (s.keyOf height (.client client) key)
    generalize s.poll describe src false height (.client client) _ = r at polled
    generalize s'.poll describe src' false height (.client client) _ = r' at polled
    obtain @⟨s₁, s₁', progress, h₁⟩ := polled
    cases progress with
    | answered o => exact .intro h₁
    | waiting due => exact .intro h₁
    | severed => exact .intro h₁
    | held => exact .intro h₁
  | cancel client => exact .intro (h.apply describe height (.same _)).state
  | setFlag flag up =>
    obtain ⟨fetches, rfl, rel⟩ := h
    exact .intro ⟨fetches, rfl, rel⟩
  | pass d =>
    obtain ⟨fetches, rfl, rel⟩ := h
    exact .intro ⟨fetches, rfl, rel⟩

/-- Whoever uses the stack sees the same, whether the source panics or is tamed. -/
theorem State.Tamed.play (h : s.Tamed s') (tamed : src.Tamed src') (height : Nat)
    (turns : List (Turn κ)) :
    s'.play describe src' height turns = s.play describe src height turns := by
  induction turns generalizing s s' with
  | nil => rfl
  | cons turn turns ih =>
    have turned := h.turn describe tamed height turn
    unfold State.play
    generalize s.turn describe src height turn = r at turned
    generalize s'.turn describe src' height turn = r' at turned
    obtain @⟨s₁, s₁', answer, h₁⟩ := turned
    dsimp only
    rw [ih h₁, h₁.env, h₁.called]

end Tamed
end Stack

/-! ## Rounds that panicked -/

/-- What is told of a panic, with its text or without one, and with the parameters that have no
secret. -/
theorem Ending.outcome_panicked {α : Type} (key : ParameterSet) (text : Option String) :
    (Ending.panicked text : Ending α).outcome key.text = .error (.fetch key.masked.text
      ["fetcher panicked: " ++ text.getD "non-string panic payload"]) := by
  rw [outcome, key.text_masked]
  rfl

/-- A round that ended with an error has failed with it, for good. -/
theorem Cache.run_failed {ι κ α : Type} [DecidableEq ι] [DecidableEq κ] {describe : κ → String}
    {world : Surroundings → State ι κ α → Surroundings → Prop} {moves : List (Step ι κ α)}
    {env : Surroundings} {s : State ι κ α} {m : Step ι κ α} {key : κ} {n : Nat}
    {ending : Ending (Resource α)} {error : ResourceError}
    (run : (system describe world).Run moves env s) (hm : m ∈ moves)
    (ends : m.event = .finish n ending) (known : m.before.Known key n)
    (fails : ending.outcome (describe key) = .error error) : s.Failed key n error := by
  refine run.since (I := Coherent) hm run_coherent (fun coherent hs => ?_)
    fun coherent failed hs => (step_transition hs).failed coherent failed
  have t := step_transition hs
  rw [ends] at t
  exact t.finish_failed coherent known fails

/-- So has one in the keyed cache of a token cache, once the ending has passed the window. -/
theorem TokenCache.run_failed {cfg : Config} {world : Surroundings → State → Surroundings → Prop}
    {moves : List (Move State Event Note)} {env : Surroundings} {s : State}
    {m : Move State Event Note} {key : ParameterSet} {n : Nat} {ending : Ending (Resource Token)}
    {error : ResourceError} (run : (system cfg world).Run moves env s) (hm : m ∈ moves)
    (ends : m.event = .keyed (.finish n ending)) (known : m.before.keyed.Known key n)
    (fails : (Token.windowed m.env.now cfg.lead ending).outcome key.text = .error error) :
    s.keyed.Failed key n error := by
  refine run.since (I := fun s => Cache.Coherent s.keyed)
    (P := fun s => s.keyed.Failed key n error) hm run_coherent (fun coherent hs => ?_)
    fun coherent failed hs => ?_
  · have t := step_transition hs
    rw [ends] at t
    obtain ⟨-, _, t, -⟩ := t.of_keyed
    exact t.finish_failed coherent known fails
  · exact (step_transition hs).keyed_keeps (P := fun k => k.Failed key n error) failed
      (fun a => failed.leave a) fun _ _ _ t => t.failed coherent failed

/-! ## Panics are failures -/

/-- A panic is a failure and no more.

Where a fetch panics it may as well return, at the same instant, an error with the text of the
panic.  A run of the keyed cache or of the token cache stays a run if this is done for any of its
fetches, and all else about its moves is as before: the states with their tables, round numbers,
tokens, timers and failures, and the notes, by which callers are answered, measurements taken and
refreshes armed.  A stack of caches over such a source shows its clients the same.

A round that panicked has failed with a fetch error, which counts as retryable and names the
parameters without their secrets.  All that wait for the round are told this error, and it keeps no
new request from starting the next round. -/
theorem panic_is_failure :
    (∀ {ι κ α : Type} [DecidableEq ι] [DecidableEq κ] (describe : κ → String)
      (world : Surroundings → Cache.State ι κ α → Surroundings → Prop) {env₀ env moves moves' s},
      (Cache.system describe world).Path env₀ .empty moves env s →
      List.Forall₂ (Move.Recast Cache.Event.Tamed) moves moves' →
      (Cache.system describe world).Path env₀ .empty moves' env s) ∧
    (∀ (cfg : TokenCache.Config)
      (world : Surroundings → TokenCache.State → Surroundings → Prop) {env₀ env moves moves' s},
      (TokenCache.system cfg world).Path env₀ .start moves env s →
      List.Forall₂ (Move.Recast TokenCache.Event.Tamed) moves moves' →
      (TokenCache.system cfg world).Path env₀ .start moves' env s) ∧
    (∀ {σ κ α : Type} [DecidableEq κ] (describe : κ → String) {src src' : Source σ κ α},
      src.Tamed src' → ∀ height memory turns,
        (Stack.State.start height memory).play describe src' height turns =
          (Stack.State.start height memory).play describe src height turns) ∧
    (∀ {ι α : Type} [DecidableEq ι]
      {world : Surroundings → Cache.State ι ParameterSet α → Surroundings → Prop} {moves env s},
      (Cache.system ParameterSet.text world).Run moves env s →
      ∀ m ∈ moves, ∀ key n text, m.event = .finish n (.panicked text) → m.before.Known key n →
        let e := ResourceError.fetch key.masked.text
          ["fetcher panicked: " ++ text.getD "non-string panic payload"]
        e.isRetryable = true ∧ s.Spent ParameterSet.text env key n e ∧
          ∀ m' ∈ moves, ∀ c k o, .answered c k n o ∈ m'.notes → o = .error e) ∧
    ∀ {cfg : TokenCache.Config}
      {world : Surroundings → TokenCache.State → Surroundings → Prop} {moves env s},
      (TokenCache.system cfg world).Run moves env s →
      ∀ m ∈ moves, ∀ key n text, m.event = .keyed (.finish n (.panicked text)) →
        m.before.keyed.Known key n →
        let e := ResourceError.fetch key.masked.text
          ["fetcher panicked: " ++ text.getD "non-string panic payload"]
        e.isRetryable = true ∧ s.keyed.Spent ParameterSet.text env key n e ∧
          ∀ m' ∈ moves, ∀ a k o, .keyed (.answered a k n o) ∈ m'.notes →
            o = .error e ∧ TokenCache.PassedOn m'.after m'.notes n o a := by
  refine ⟨?_, ?_, ?_, ?_, ?_⟩
  · intro ι κ α _ _ describe world env₀ env moves moves' s path tamed
    exact path.recast (fun env s _ _ h => h.step describe env s) tamed
  · intro cfg world env₀ env moves moves' s path tamed
    exact path.recast (fun env s _ _ h => h.step cfg env s) tamed
  · intro σ κ α _ describe src src' tamed height memory turns
    exact (Stack.State.Tamed.refl _ fun _ => rfl).play tamed height turns
  · intro ι α _ world moves env s run m hm key n text ends known e
    have failed : s.Failed key n e :=
      Cache.run_failed run hm ends known (Ending.outcome_panicked key text)
    refine ⟨rfl, failed.spent (Cache.run_coherent run) _ env, fun m' hm' c k o ha => ?_⟩
    exact Option.some.inj ((Cache.outcome_of_answered run hm' ha).symm.trans failed.outcome)
  · intro cfg world moves env s run m hm key n text ends known e
    -- The window lets a panic pass.
    have failed : s.keyed.Failed key n e :=
      TokenCache.run_failed run hm ends known (Ending.outcome_panicked key text)
    refine ⟨rfl, failed.spent (TokenCache.run_coherent run) _ env, fun m' hm' a k o ha => ?_⟩
    obtain ⟨_, _, _, -, -, hs, -⟩ := run.cut_of_mem hm'
    exact ⟨Option.some.inj
      ((TokenCache.outcome_of_answered run hm' ha).symm.trans failed.outcome),
      (TokenCache.step_transition hs).passes_on ha⟩

/-- The refresh of a token panics, and counts as one failure.  With an error in the place of the
panic, all goes on as it did. -/
theorem panic_is_failure_refreshing :
    ∃ cfg earlier m later env s,
      (TokenCache.system cfg fun _ _ _ => True).Path .start .start (earlier ++ [m] ++ later) env s ∧
      (TokenCache.system cfg fun _ _ _ => True).Path .start .start
        (earlier ++ [{ m with
          event := .keyed (.finish 1 (.returned (.error (.plain "fetcher panicked: boom")))) }] ++
            later) env s ∧
      m.event = .keyed (.finish 1 (.panicked (some "boom"))) ∧
      s.keyed.outcome? 1 = some (.error (.fetch "\x7b\x7d" ["fetcher panicked: boom"])) ∧
      s.lastError = some (.fetch "\x7b\x7d" ["fetcher panicked: boom"]) ∧ s.failures = 1 ∧
      s.timer.map TokenCache.Timer.id = some 1 := by
  let cfg : TokenCache.Config :=
    { name := "token", parameters := .empty, lead := 4000000, backoff := { base := 1, limit := 8 } }
  have fetched : (TokenCache.system cfg fun _ _ _ => True).Path .start .start _ _ _ :=
    .of_replay [.enter 0 .get, .act (.caller 0), .keyed (.look (.caller 0) .empty),
      .keyed (.decide (.caller 0)),
      .keyed (.finish 0 (.returned (.ok (Token.toResource ⟨"first", 4000090⟩ 0)))),
      .keyed (.settle (.caller 0))] rfl
  have due := fetched.wait
    (show (TokenCache.system cfg fun _ _ _ => True).world _ _ (Surroundings.start.pass 90) from
      trivial)
  have asked := due.trans (.of_replay [.fire 0, .keyed (.look (.refresh 0) .empty),
    .keyed (.decide (.refresh 0))] rfl)
  have panicked := asked.move (e := .keyed (.finish 1 (.panicked (some "boom")))) rfl
  have failed := panicked.trans (.of_replay [.keyed (.settle (.refresh 0)), .act (.refresh 0)] rfl)
  have tamed := panic_is_failure.2.1 cfg _ failed (List.rel_append (List.rel_append
    (Move.recast_refl .same _) (.cons ⟨_, .keyed (.finish 1 (.panic "boom")), rfl⟩ .nil))
    (Move.recast_refl .same _))
  obtain ⟨-, spent, -⟩ := panic_is_failure.2.2.2.2 ⟨_, failed⟩ _
    (List.mem_append_left _ (List.mem_append_right _ (.head _))) .empty 1 (some "boom") rfl
    ⟨_, rfl, rfl⟩
  exact ⟨cfg, _, _, _, _, _, failed, tamed, rfl, spent.outcome, rfl, rfl, rfl⟩

end SingleFlight
