import SingleFlight.Failure
import SingleFlight.Token

/-!
The window in which a token is served without being refreshed.

A token is to be replaced before it expires: `lead` ahead of its expiry, or, if it does not live
that long, after half of its life, so that a refresh is never due at the moment the token arrives.
-/

namespace SingleFlight
namespace Token

/-- The instant from which a token that expires at `expiresAt` should be replaced, seen from
`now`. -/
def refreshInstant (now expiresAt lead : Nat) : Nat :=
  let lifetime := Instant.remaining expiresAt now
  if lead < lifetime then expiresAt - lead else now + lifetime / 2

/-- The resource of a token, valid until the token should be replaced. -/
def untilRefresh (now : Nat) (r : Resource Token) (lead : Nat) : Resource Token :=
  r.revalidated (.expiresAt (refreshInstant now r.value.expiresAt lead))

/-- Why a token that arrives too late is refused. -/
def expiredOnArrival : Failure := Failure.plain "fetched token is already expired"

/-- What becomes of a fetched token at the moment of its arrival. -/
def accept (now lead : Nat) (r : Resource Token) : Except Failure (Resource Token) :=
  if r.value.isExpired now then .error expiredOnArrival else .ok (untilRefresh now r lead)

/-- A fetch that ends now, seen through the window. -/
def windowed (now lead : Nat) : Ending (Resource Token) → Ending (Resource Token)
  | .returned (.ok r) => .returned (accept now lead r)
  | ending => ending

/-- The instant at which a held token should be replaced: the end of its resource's validity, or
its expiry where the validity names no instant. -/
def refreshAt (r : Resource Token) : Nat := r.validity.expiry?.getD r.value.expiresAt

/-! ## Where the refresh instant lies -/

theorem le_refreshInstant {now expiresAt lead : Nat} : now ≤ refreshInstant now expiresAt lead := by
  unfold refreshInstant Instant.remaining
  dsimp only
  split <;> omega

theorem refreshInstant_le {now expiresAt lead : Nat} (h : now ≤ expiresAt) :
    refreshInstant now expiresAt lead ≤ expiresAt := by
  unfold refreshInstant Instant.remaining
  dsimp only
  split <;> omega

/-- A token that has two nanoseconds to live is not due at once. -/
theorem lt_refreshInstant {now expiresAt lead : Nat} (lively : now + 2 ≤ expiresAt) :
    now < refreshInstant now expiresAt lead := by
  unfold refreshInstant Instant.remaining
  dsimp only
  split <;> omega

/-- A token that comes through the window is alive, and its resource is valid until the token should
be replaced. -/
theorem windowed_outcome {now lead : Nat} {ending : Ending (Resource Token)} {parameters : String}
    {r : Resource Token} (h : (windowed now lead ending).outcome parameters = .ok r) :
    now < r.value.expiresAt ∧ r.validity = .expiresAt (refreshInstant now r.value.expiresAt lead) := by
  cases ending with
  | panicked text => cases h
  | returned result =>
    cases result with
    | error failure => cases h
    | ok fetched =>
      dsimp only [windowed, accept] at h
      split at h
      · cases h
      · rename_i hexpired
        obtain rfl : untilRefresh now fetched lead = r := by simpa [Ending.outcome] using h
        have alive : now < fetched.value.expiresAt := by
          rw [isExpired_iff] at hexpired
          omega
        exact ⟨alive, rfl⟩

end Token
end SingleFlight
