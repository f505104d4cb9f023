import SingleFlight.Text.Quoted

/-!
Values that parameters may have.

A value is stored with its kind and read back at a type: `Storable α` says how the values of `α`
are stored, and its law says that nothing is lost on the way.
-/

namespace SingleFlight
namespace Parameter

inductive Value where
  | text (s : String)
  | natural (n : Nat)
  | integer (i : Int)
  | truth (b : Bool)
  | texts (ss : List String)
  | optional (s : Option String)
  /-- Rows with distinct names in ascending order. -/
  | table (rows : List (String × Int))
deriving DecidableEq, Repr, Hashable

namespace Value

/-- Put a row into rows that ascend by name; an earlier row of the name gives way. -/
def insertRow (name : String) (i : Int) : List (String × Int) → List (String × Int)
  | [] => [(name, i)]
  | (other, j) :: rest =>
    if name < other then (name, i) :: (other, j) :: rest
    else if name = other then (name, i) :: rest
    else (other, j) :: insertRow name i rest

/-- A table from rows in any order, of which the last one of each name counts. -/
def ofRows (rows : List (String × Int)) : Value :=
  table (rows.foldl (fun sorted (name, i) => insertRow name i sorted) [])

/-- How the value is shown. -/
def shown : Value → String
  | text s => Text.quoted s
  | natural n => toString n
  | integer i => toString i
  | truth b => toString b
  | texts ss => "[" ++ ", ".intercalate (ss.map Text.quoted) ++ "]"
  | optional none => "None"
  | optional (some s) => "Some(" ++ Text.quoted s ++ ")"
  | table rows =>
    "\x7b" ++ ", ".intercalate (rows.map fun (name, i) => Text.quoted name ++ ": " ++ toString i)
      ++ "\x7d"

end Value

/-- Types whose values can be stored, and read back as they were. -/
class Storable (α : Type) where
  store : α → Value
  load? : Value → Option α
  load_store : ∀ a, load? (store a) = some a

instance : Storable Value where
  store := id
  load? := some
  load_store _ := rfl

instance : Storable String where
  store := .text
  load?
    | .text s => some s
    | _ => none
  load_store _ := rfl

instance : Storable Nat where
  store := .natural
  load?
    | .natural n => some n
    | _ => none
  load_store _ := rfl

end Parameter
end SingleFlight
