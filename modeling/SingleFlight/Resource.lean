import SingleFlight.Validity

/-!
Fetched values with the rule that says how long they may be served.
-/

namespace SingleFlight

/-- A value, the object that holds it, and what limits its use.  Resources with the same `object`
share their value: `revalidated` and copies keep the object, and every fetch makes a new one. -/
structure Resource (α : Type) where
  value : α
  object : Nat
  validity : Validity
  sensitive : Bool
deriving DecidableEq, Repr

namespace Resource

variable {α : Type}

/-- The same value under another rule. -/
def revalidated (r : Resource α) (v : Validity) : Resource α := { r with validity := v }

def shares (r s : Resource α) : Bool := r.object == s.object

/-- How the resource is shown, given how its value would be.  A sensitive value is not. -/
def outline (value : α → Text.Outline) (r : Resource α) : Text.Outline :=
  .record "Resource"
    [("value", if r.sensitive then .leaf "\"****\"" else value r.value),
      ("validity", r.validity.outline),
      ("sensitive", .leaf (toString r.sensitive))]

theorem revalidated_shares (r : Resource α) (v : Validity) : (r.revalidated v).shares r = true := by
  simp [shares, revalidated]

end Resource
end SingleFlight
