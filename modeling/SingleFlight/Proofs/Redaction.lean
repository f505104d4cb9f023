import SingleFlight.Proofs.Cache.Answers
import SingleFlight.Proofs.Parameter.Agreement
import SingleFlight.Token

/-!
What is shown does not depend on secrets.

`ParameterSet.masked` puts stars in the place of every secret value.  A set is shown as it is when
masked, and sets that differ in secrets only are the same when masked.  An error tells of the
parameters of its round only what the set shows, so the callers of two rounds that ended alike are
told the same.  Whoever sees texts and errors alone cannot tell such sets apart:
`redaction_noninterfering`.
-/

namespace SingleFlight

namespace ParameterSet

/-- The entries bear one name and are secret alike, and have the same value if they are not. -/
structure Entry.Alike (e f : Entry) : Prop where
  name : e.name = f.name
  sensitive : e.sensitive = f.sensitive
  shown : e.sensitive = false → e.value = f.value

/-- The sets have values for the same parameters, and the same values for those that are not
secret. -/
def Alike (s t : ParameterSet) : Prop := ∀ id, Option.Rel Entry.Alike (s.find? id) (t.find? id)

/-- What is left of an entry when its secret is taken away. -/
def Entry.masked (e : Entry) : Entry :=
  { e with value := if e.sensitive then .text redacted else e.value }

def masked (s : ParameterSet) : ParameterSet := s.map Entry.masked

variable {s t : ParameterSet} {id : ParameterId} {e f : Entry}

theorem Entry.text_masked (e : Entry) : e.masked.text = e.text := by
  unfold masked text
  cases h : e.sensitive <;> simp

theorem Entry.Alike.masked_eq (h : e.Alike f) : e.masked = f.masked := by
  refine Entry.ext h.name h.sensitive ?_
  show (if e.sensitive then _ else e.value) = if f.sensitive then _ else f.value
  rw [← h.sensitive]
  cases secret : e.sensitive with
  | false => simp [h.shown secret]
  | true => rfl

theorem text_masked (s : ParameterSet) : s.masked.text = s.text := by
  unfold text masked map
  rw [List.map_map]
  exact congrArg (fun texts => "\x7b" ++ ", ".intercalate texts ++ "\x7d")
    (List.map_congr_left fun row _ => row.2.text_masked)

theorem Alike.masked_eq (h : s.Alike t) : s.masked = t.masked := by
  refine ext fun id => ?_
  rw [masked, masked, find?_map, find?_map]
  have alike := h id
  generalize s.find? id = e at alike ⊢
  generalize t.find? id = f at alike ⊢
  cases alike with
  | none => rfl
  | some alike => exact congrArg some alike.masked_eq

theorem Alike.text_eq (h : s.Alike t) : s.text = t.text := by
  rw [← text_masked s, h.masked_eq, text_masked t]

/-- Sets stay alike under edits that differ in secrets only. -/
theorem Alike.insert (h : s.Alike t) (alike : e.Alike f) :
    (s.insert id e).Alike (t.insert id f) := by
  intro id'
  rw [find?_insert, find?_insert]
  split
  · exact .some alike
  · exact h id'

theorem Alike.refl (s : ParameterSet) : s.Alike s := by
  intro id
  cases s.find? id with
  | none => exact .none
  | some e => exact .some ⟨rfl, rfl, fun _ => rfl⟩

end ParameterSet

/-! ## Errors -/

/-- The fetch returns an error, or panics. -/
def Ending.Fails {α : Type} (ending : Ending α) : Prop := ∀ value, ending ≠ .returned (.ok value)

theorem Ending.Fails.outcome {α : Type} {ending : Ending α} (fails : ending.Fails)
    (parameters : String) : ∃ e, ending.outcome parameters = .error e := by
  cases ending with
  | returned result =>
    cases result with
    | ok value => exact absurd rfl (fails value)
    | error failure => exact ⟨_, rfl⟩
  | panicked text => exact ⟨_, rfl⟩

namespace Cache

variable {ι κ α : Type} [DecidableEq ι] [DecidableEq κ] {describe : κ → String}
  {world : Surroundings → State ι κ α → Surroundings → Prop} {moves : List (Step ι κ α)}
  {env env' : Surroundings} {s s' : State ι κ α} {m : Step ι κ α} {notes : List (Note ι κ α)}
  {key : κ} {n : Nat} {ending : Ending (Resource α)}

theorem Transition.finish_outcome (t : Transition describe env s (.finish n ending) env' s' notes)
    (known : s.Known key n) : s'.outcome? n = some (ending.outcome (describe key)) := by
  obtain ⟨r, hr, rfl⟩ := known
  cases t with
  | hit looks _ _ | join looks _ _ => cases looks
  | @finish _ r' _ hr' _ _ =>
    obtain rfl : r = r' := Option.some.inj (hr.symm.trans hr')
    simp [State.outcome?]

/-- A round keeps the outcome that it ended with. -/
theorem outcome_of_finish (run : (system describe world).Run moves env s) (hm : m ∈ moves)
    (ends : m.event = .finish n ending) (known : m.before.Known key n) :
    s.outcome? n = some (ending.outcome (describe key)) := by
  refine run.since (I := Coherent) hm run_coherent (fun _ hs => ?_)
    fun coherent ended hs => (step_transition hs).outcome?_stays coherent ended
  have t := step_transition hs
  rw [ends] at t
  exact t.finish_outcome known

end Cache

/-! ## Resources, tokens and declarations -/

theorem Resource.outline_of_secret {α β : Type} {r : Resource α} {r' : Resource β}
    (secret : r.sensitive = true) (secret' : r'.sensitive = true)
    (validity : r.validity = r'.validity) (render : α → Text.Outline) (render' : β → Text.Outline) :
    r.outline render = r'.outline render' := by
  unfold outline
  rw [secret, secret', validity]
  rfl

theorem Token.outline_congr {a b : Token} {now now' : Nat}
    (left : a.expiresIn now = b.expiresIn now') : a.outline now = b.outline now' := by
  unfold outline
  rw [left]

theorem Parameter.outline_congr {α β : Type} {p : Parameter α} {q : Parameter β} (id : p.id = q.id)
    (name : p.name = q.name) (required : p.required = q.required)
    (sensitive : p.sensitive = q.sensitive) : p.outline = q.outline := by
  unfold outline
  rw [id, name, required, sensitive]

/-! ## Noninterference -/

/-- Nothing that is shown tells secrets.

Sets that differ in the values of secret parameters only are shown alike.  When two rounds for them
end with the same error or the same panic, wherever they belong and whatever happens around them,
then both have the same outcome, an error with the same message, and every answer from either is
that error.  A secret resource is shown in the same way whatever its value, a token by the time that
it has left, and a parameter without its default. -/
theorem redaction_noninterfering {s t : ParameterSet} (alike : s.Alike t) :
    (s.text = t.text ∧ s.shown = t.shown) ∧
    (∀ {ι α : Type} [DecidableEq ι]
      {world world' : Surroundings → Cache.State ι ParameterSet α → Surroundings → Prop}
      {moves moves' env env'} {after after' : Cache.State ι ParameterSet α},
      (Cache.system ParameterSet.text world).Run moves env after →
      (Cache.system ParameterSet.text world').Run moves' env' after' →
      ∀ m ∈ moves, ∀ m' ∈ moves', ∀ n n' ending, ending.Fails →
        m.event = .finish n ending → m'.event = .finish n' ending →
        m.before.Known s n → m'.before.Known t n' →
        ∃ e e', after.outcome? n = some (.error e) ∧ after'.outcome? n' = some (.error e') ∧
          e.message = e'.message ∧
          (∀ m ∈ moves, ∀ c key o, .answered c key n o ∈ m.notes → o = .error e) ∧
          ∀ m' ∈ moves', ∀ c key o, .answered c key n' o ∈ m'.notes → o = .error e') ∧
    (∀ {α β : Type} (render : α → Text.Outline) (render' : β → Text.Outline) (r : Resource α)
      (r' : Resource β), r.sensitive = true → r'.sensitive = true → r.validity = r'.validity →
      (r.outline render).inline = (r'.outline render').inline ∧
        (r.outline render).lines = (r'.outline render').lines) ∧
    (∀ (a b : Token) (now now' : Nat), a.expiresIn now = b.expiresIn now' →
      (a.outline now).inline = (b.outline now').inline ∧
        (a.outline now).lines = (b.outline now').lines) ∧
    ∀ {α β : Type} (p : Parameter α) (q : Parameter β), p.id = q.id → p.name = q.name →
      p.required = q.required → p.sensitive = q.sensitive →
      p.shown = q.shown ∧ p.outline.lines = q.outline.lines := by
  have text := alike.text_eq
  refine ⟨⟨text, congrArg ("ParameterSet" ++ ·) text⟩, ?_, ?_, ?_, ?_⟩
  · intro ι α _ world world' moves moves' env env' after after' run run' m hm m' hm' n n' ending
      fails ends ends' known known'
    obtain ⟨e, he⟩ := fails.outcome s.text
    have he' : ending.outcome t.text = .error e := text ▸ he
    have ended := Cache.outcome_of_finish run hm ends known
    have ended' := Cache.outcome_of_finish run' hm' ends' known'
    rw [he] at ended
    rw [he'] at ended'
    refine ⟨e, e, ended, ended', rfl, ?_, ?_⟩
    · intro m hm c key o ha
      exact Option.some.inj ((Cache.outcome_of_answered run hm ha).symm.trans ended)
    · intro m hm c key o ha
      exact Option.some.inj ((Cache.outcome_of_answered run' hm ha).symm.trans ended')
  · intro α β render render' r r' secret secret' validity
    have same := Resource.outline_of_secret secret secret' validity render render'
    exact ⟨congrArg Text.Outline.inline same, congrArg Text.Outline.lines same⟩
  · intro a b now now' left
    have same := Token.outline_congr left
    exact ⟨congrArg Text.Outline.inline same, congrArg Text.Outline.lines same⟩
  · intro α β p q id name required sensitive
    have same := Parameter.outline_congr id name required sensitive
    exact ⟨congrArg Text.Outline.inline same, congrArg Text.Outline.lines same⟩

/-- Two sets with different secrets.  A fetch for each panics, one for a caller that started it and
one for a caller that joined, and both end with the same message. -/
theorem redaction_noninterfering_panicked :
    ∃ s t : ParameterSet, s ≠ t ∧ s.Alike t ∧ s.text = t.text ∧
      ∃ moves moves' env env', ∃ after after' : Cache.State Nat ParameterSet Nat, ∃ e e',
        (Cache.system ParameterSet.text fun _ _ _ => True).Run moves env after ∧
        (Cache.system ParameterSet.text fun _ _ _ => True).Run moves' env' after' ∧
        after.outcome? 0 = some (.error e) ∧ after'.outcome? 0 = some (.error e') ∧
        e.message = e'.message := by
  let secret (n : Nat) : ParameterSet.Entry := ⟨"secretId", true, .natural n⟩
  let plain : ParameterSet.Entry := ⟨"isDryRun", false, .truth true⟩
  let keyed (n : Nat) : ParameterSet := (ParameterSet.empty.insert ⟨1⟩ (secret n)).insert ⟨2⟩ plain
  have secrets : (secret 5).Alike (secret 6) := ⟨rfl, rfl, fun h => Bool.noConfusion h⟩
  have same : plain.Alike plain := ⟨rfl, rfl, fun _ => rfl⟩
  have alike : (keyed 5).Alike (keyed 6) :=
    ((ParameterSet.Alike.refl .empty).insert secrets).insert same
  have different : keyed 5 ≠ keyed 6 := fun same => by
    have values := congrArg (ParameterSet.find? · ⟨1⟩) same
    cases values
  have run : (Cache.system ParameterSet.text fun _ _ _ => True :
      System (Cache.State Nat ParameterSet Nat) _ _).Run _ _ _ :=
    ⟨.start, .of_replay [.look 0 (keyed 5), .decide 0, .finish 0 (.panicked (some "boom")),
      .settle 0] rfl⟩
  have run' : (Cache.system ParameterSet.text fun _ _ _ => True :
      System (Cache.State Nat ParameterSet Nat) _ _).Run _ _ _ :=
    ⟨.start, .of_replay [.look 0 (keyed 6), .decide 0, .look 1 (keyed 6), .drop 0,
      .finish 0 (.panicked (some "boom")), .settle 1] rfl⟩
  obtain ⟨⟨text, -⟩, told, -⟩ := redaction_noninterfering alike
  obtain ⟨e, e', ended, ended', same, -⟩ := told run run' _ (.tail _ (.tail _ (.head _))) _
    (.tail _ (.tail _ (.tail _ (.tail _ (.head _))))) 0 0 (.panicked (some "boom"))
    (fun _ => nofun) rfl rfl ⟨_, rfl, rfl⟩ ⟨_, rfl, rfl⟩
  exact ⟨_, _, different, alike, text, _, _, _, _, _, _, e, e', run, run', ended, ended', same⟩

end SingleFlight
