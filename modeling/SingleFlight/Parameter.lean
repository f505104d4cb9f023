import SingleFlight.Parameter.Value
import SingleFlight.Text.Outline

/-!
Declared parameters.

Parameters are told apart by identity and not by name: two declarations of one name never meet.
`Declarations.declare` gives every declaration a serial number of its own, and that number is all
there is to the identity.  A parameter that is marked as secret remains the one it was.
-/

namespace SingleFlight

/-- The identity of a parameter: the serial number of its declaration. -/
@[ext]
structure ParameterId where
  serial : Nat
deriving DecidableEq, Repr, Hashable

namespace ParameterId

/-- Identities are ordered by declaration. -/
def Before (a b : ParameterId) : Prop := a.serial < b.serial

instance (a b : ParameterId) : Decidable (Before a b) :=
  inferInstanceAs (Decidable (a.serial < b.serial))

theorem Before.irrefl (a : ParameterId) : ¬ Before a a := Nat.lt_irrefl _

theorem Before.trans {a b c : ParameterId} (hab : Before a b) (hbc : Before b c) : Before a c :=
  Nat.lt_trans hab hbc

/-- Of two different identities one comes first. -/
theorem Before.total {a b : ParameterId} (h : ¬ Before a b) (h' : ¬ Before b a) : a = b :=
  ParameterId.ext (Nat.le_antisymm (Nat.not_lt.1 h') (Nat.not_lt.1 h))

end ParameterId

/-- A parameter with values of one type. -/
structure Parameter (α : Type) where
  id : ParameterId
  /-- What it is shown under. -/
  name : String
  required : Bool
  /-- Whether its values are secret. -/
  sensitive : Bool
  default : Option α

namespace Parameter

/-- The value of the parameter where none is given. -/
def withDefault {α : Type} (p : Parameter α) (a : α) : Parameter α := { p with default := some a }

/-- The parameter with secret values.  Values that were given before stay as they are. -/
def marked {α : Type} (p : Parameter α) : Parameter α := { p with sensitive := true }

/-- How the parameter is shown.  Its default value is not. -/
def outline {α : Type} (p : Parameter α) : Text.Outline :=
  .record "Parameter"
    [("id", .tagged "ParameterId" (.leaf (toString p.id.serial))),
      ("name", .leaf (Text.quoted p.name)),
      ("required", .leaf (toString p.required)),
      ("sensitive", .leaf (toString p.sensitive))]

def shown {α : Type} (p : Parameter α) : String := p.outline.inline

end Parameter

/-- The parameters that a program has declared so far: serial numbers count from one. -/
structure Declarations where
  count : Nat := 0

/-- A declaration, before anything more is said of the parameter. -/
def Declarations.next {α : Type} (d : Declarations) (name : String) (required : Bool) :
    Declarations × Parameter α :=
  ({ count := d.count + 1 },
    { id := { serial := d.count + 1 }, name := name, required := required, sensitive := false
      default := none })

/-- Declare a parameter, with all that is to be said of it. -/
def Declarations.declare {α : Type} (d : Declarations) (name : String) (required sensitive : Bool)
    (default : Option α) : Declarations × Parameter α :=
  let (d, p) := d.next name required
  let p := match default with
    | some a => p.withDefault a
    | none => p
  (d, if sensitive then p.marked else p)

end SingleFlight
