import SingleFlight.Proofs.TokenCache.Bookkeeping
import SingleFlight.Proofs.TokenCache.Guarded

/-!
What is counted of readers.

A `Ledger` keeps what counts of a path of readers: who asked for the lock, what the fetches gave and
who was told what, each in order, and how often callers moved and called the source.  Every move
adds to it what `Ledger.after` says.

Two equations decide who is told what.  As long as all fetches have failed the answers are what the
fetches gave (`outcome_of_failed`); and once a fetch has given a token all further answers are this
token (`outcome_of_shared`).  Either way the answer at a place is what the fetch of this place gave,
or the first one that gave a token.
-/

namespace SingleFlight
namespace TokenCache

open State

/-- The caller that asks for the lock to read. -/
def Event.reader? : Event → Option Nat
  | enter n .get => some n
  | _ => none

/-- Whether the event is a move of a caller. -/
def Event.byCaller (e : Event) : Bool :=
  match e.agent? with
  | some (.caller _) => true
  | _ => false

def Note.answer? : Note → Option (Nat × Except ResourceError Token)
  | answered n result => some (n, result)
  | _ => none

/-- Whether a fetch is started, and the source called with it. -/
def Note.isMiss : Note → Bool
  | keyed (.missed _ _) => true
  | _ => false

/-- What a fetch that ends now gives.  A token that has expired on arrival is a failure. -/
def received (cfg : Config) (now : Nat) : Ending (Resource Token) → Except ResourceError Token
  | .returned (.ok r) =>
    if r.value.isExpired now then
      .error (.fetch cfg.parameters.text ["fetched token is already expired"])
    else .ok r.value
  | .returned (.error failure) => .error (failure.classify cfg.parameters.text)
  | .panicked text => .error ((Failure.plain (panicText text)).classify cfg.parameters.text)

/-- What the fetch gives that ends in the move. -/
def received? (cfg : Config) (m : Move State Event Note) : Option (Except ResourceError Token) :=
  match m.event with
  | .keyed (.finish _ ending) => some (received cfg m.env.now ending)
  | _ => none

/-- What happens on a path of readers: who asked for the lock, what the fetches gave, and who was
told what, each in order; how often a caller called the source, and how often callers moved. -/
structure Ledger where
  readers : List Nat
  outcomes : List (Except ResourceError Token)
  answers : List (Nat × Except ResourceError Token)
  fetches : Nat
  turns : Nat

/-- The ledger of a path. -/
def ledger (cfg : Config) (moves : List (Move State Event Note)) : Ledger where
  readers := moves.filterMap fun m => m.event.reader?
  outcomes := moves.filterMap (received? cfg)
  answers := moves.flatMap fun m => m.notes.filterMap Note.answer?
  fetches := moves.countP fun m => m.event.byCaller && m.notes.any Note.isMiss
  turns := moves.countP fun m => m.event.byCaller

/-- The ledger after one more move. -/
def Ledger.after (l : Ledger) (cfg : Config) (m : Move State Event Note) : Ledger where
  readers := l.readers ++ m.event.reader?.toList
  outcomes := l.outcomes ++ (received? cfg m).toList
  answers := l.answers ++ m.notes.filterMap Note.answer?
  fetches := l.fetches + (m.event.byCaller && m.notes.any Note.isMiss).toNat
  turns := l.turns + m.event.byCaller.toNat

/-- The place of the first fetch that gave a token. -/
def Ledger.first (l : Ledger) : Nat := l.outcomes.findIdx Except.isOk

theorem filterMap_concat {β γ : Type} (f : β → Option γ) (l : List β) (b : β) :
    (l ++ [b]).filterMap f = l.filterMap f ++ (f b).toList := by
  cases h : f b <;> simp [h]

theorem ledger_concat (cfg : Config) (moves : List (Move State Event Note))
    (m : Move State Event Note) : ledger cfg (moves ++ [m]) = (ledger cfg moves).after cfg m := by
  simp only [ledger, Ledger.after, filterMap_concat, countP_concat, List.flatMap_append,
    List.flatMap_singleton]

/-- The fetch gives what its outcome says once the token has come through the window. -/
theorem received_eq (cfg : Config) (now : Nat) (ending : Ending (Resource Token)) :
    received cfg now ending = ((Token.windowed now cfg.lead ending).outcome
      cfg.parameters.text).map Resource.value := by
  cases ending with
  | panicked text => rfl
  | returned result =>
    cases result with
    | error failure => rfl
    | ok r =>
      by_cases expired : r.value.isExpired now = true
      · simp only [received, Token.windowed, Token.accept, if_pos expired]
        rfl
      · simp only [received, Token.windowed, Token.accept, if_neg expired]
        rfl

/-- Where a reader is at the head of the line it is the next in order, and the others follow. -/
theorem head_of_line {readers ts : List Nat} {k n : Nat} {queue : List Agent}
    (h : .caller n :: queue = (readers.drop k).map .caller ++ ts.map .refresh) :
    readers[k]? = some n ∧
      queue = (readers.drop (k + 1)).map .caller ++ ts.map .refresh := by
  cases rest : readers.drop k with
  | nil =>
    rw [rest] at h
    cases ts <;> simp at h
  | cons m others =>
    rw [rest] at h
    obtain ⟨rfl, rfl⟩ : n = m ∧ queue = others.map .caller ++ ts.map .refresh := by simpa using h
    have at_head : (readers.drop k)[0]? = some n := by rw [rest]; rfl
    have behind : (readers.drop k).drop 1 = others := by rw [rest]; rfl
    rw [List.getElem?_drop] at at_head
    rw [List.drop_drop] at behind
    exact ⟨at_head, by rw [behind]⟩

/-- A move that is no reader's and makes nothing known is not in the ledger. -/
theorem Ledger.after_silent (l : Ledger) (cfg : Config) {m : Move State Event Note}
    (reader : m.event.reader? = none) (received : received? cfg m = none)
    (caller : m.event.byCaller = false) (notes : m.notes.filterMap Note.answer? = []) :
    l.after cfg m = l := by
  simp [after, reader, received, caller, notes]

/-! ## Who is told what -/

section Ledger

variable {l : Ledger} {failed rest : List (Except ResourceError Token)} {token : Token} {i n : Nat}

theorem first_of_failed (errors : ∀ result ∈ failed, Except.isOk result = false)
    (outcomes : l.outcomes = failed ++ rest) :
    l.first = rest.findIdx Except.isOk + failed.length := by
  have none_ok : failed.findIdx Except.isOk = failed.length := List.findIdx_eq_length.2 errors
  rw [Ledger.first, outcomes, List.findIdx_append, none_ok, if_neg (Nat.lt_irrefl _)]

theorem readers_of_answers {result : Except ResourceError Token}
    (named : l.answers.map Prod.fst = l.readers.take l.answers.length)
    (ha : l.answers[i]? = some (n, result)) : l.readers[i]? = some n := by
  have name : (l.readers.take l.answers.length)[i]? = some n := by
    rw [← named, List.getElem?_map, ha]
    rfl
  rw [List.getElem?_take] at name
  split at name
  · exact name
  · cases name

theorem length_of_named (named : l.answers.map Prod.fst = l.readers.take l.answers.length) :
    l.answers.length ≤ l.readers.length := by
  have names := congrArg List.length named
  rw [List.length_map, List.length_take] at names
  omega

theorem outcome_of_failed {result : Except ResourceError Token}
    (errors : ∀ result ∈ failed, Except.isOk result = false)
    (outcomes : l.outcomes = failed ++ rest) (hi : failed[i]? = some result) :
    l.outcomes[min i l.first]? = some result := by
  obtain ⟨bound, -⟩ := List.getElem?_eq_some_iff.1 hi
  have first := first_of_failed errors outcomes
  have early : min i l.first = i := by omega
  rw [early, outcomes, List.getElem?_append_left bound, hi]

theorem outcome_of_shared {result : Except ResourceError Token} {more : Nat}
    (errors : ∀ result ∈ failed, Except.isOk result = false)
    (outcomes : l.outcomes = failed ++ .ok token :: rest)
    (hi : (failed ++ List.replicate more (.ok token))[i]? = some result) :
    l.outcomes[min i l.first]? = some result := by
  rcases Nat.lt_or_ge i failed.length with early | late
  · rw [List.getElem?_append_left early] at hi
    exact outcome_of_failed errors outcomes hi
  · have first := first_of_failed errors outcomes
    have at_head : (.ok token :: rest).findIdx Except.isOk = 0 := List.findIdx_cons
    have at_first : min i l.first = failed.length := by omega
    rw [List.getElem?_append_right late, List.getElem?_replicate] at hi
    split at hi
    · rw [at_first, outcomes, List.getElem?_append_right (Nat.le_refl _), Nat.sub_self, ← hi]
      rfl
    · cases hi

end Ledger

end TokenCache
end SingleFlight
