import SingleFlight.Resource

/-!
Access tokens: a secret text and the instant from which it is no longer accepted.
-/

namespace SingleFlight

structure Token where
  value : String
  expiresAt : Nat
deriving DecidableEq, Repr

namespace Token

/-- A token whose lifetime starts now. -/
def expiringIn (now : Nat) (value : String) (lifetime : Nat) : Token :=
  { value := value, expiresAt := Instant.after now lifetime }

/-- A token that expires at a UNIX second, with the wall clock at `wall`. -/
def ofUnixExpiry (now : Nat) (wall : Int) (value : String) (expiry : Int) : Token :=
  { value := value, expiresAt := Instant.ofUnix now wall expiry }

/-- Time left. -/
def expiresIn (t : Token) (now : Nat) : Nat := Instant.remaining t.expiresAt now

def isExpired (t : Token) (now : Nat) : Bool := decide (t.expiresAt ≤ now)

/-- A secret resource that is valid as long as the token is accepted. -/
def toResource (t : Token) (object : Nat) : Resource Token :=
  { value := t, object := object, validity := .expiresAt t.expiresAt, sensitive := true }

/-- Only the time left is shown. -/
def outline (now : Nat) (t : Token) : Text.Outline :=
  .record "AccessToken"
    [("value", .leaf "\"****\""), ("expires_in", .leaf (Span.text (t.expiresIn now)))]

theorem isExpired_iff {t : Token} {now : Nat} : t.isExpired now = true ↔ t.expiresAt ≤ now := by
  simp [isExpired]

theorem isExpired_iff_expiresIn {t : Token} {now : Nat} :
    t.isExpired now = true ↔ t.expiresIn now = 0 := by
  rw [isExpired_iff, expiresIn, Instant.remaining_eq_zero_iff]

/-- Once expired, a token stays so. -/
theorem isExpired_mono {t : Token} {now later : Nat} (h : now ≤ later)
    (he : t.isExpired now = true) : t.isExpired later = true :=
  isExpired_iff.2 (Nat.le_trans (isExpired_iff.1 he) h)

end Token
end SingleFlight
