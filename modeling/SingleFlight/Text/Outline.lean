/-!
Outlines: records and tagged values as text, on one line or with a line for each part.
-/

namespace SingleFlight
namespace Text

inductive Outline where
  | leaf (text : String)
  | tagged (name : String) (item : Outline)
  | record (name : String) (fields : List (String × Outline))

namespace Outline

mutual

/-- On one line. -/
def inline : Outline → String
  | leaf text => text
  | tagged name item => name ++ "(" ++ inline item ++ ")"
  | record name fields => name ++ " \x7b " ++ ", ".intercalate (inlineFields fields) ++ " \x7d"

def inlineFields : List (String × Outline) → List String
  | [] => []
  | (name, item) :: rest => (name ++ ": " ++ inline item) :: inlineFields rest

end

/-- Four spaces for each level. -/
def margin (depth : Nat) : String := String.ofList (List.replicate (4 * depth) ' ')

mutual

/-- A line for each part, indented by its depth and closed by a comma.  The first line is not
indented: it goes on where the caller stands. -/
def linesAt (depth : Nat) : Outline → String
  | leaf text => text
  | tagged name item =>
    name ++ "(\n" ++ margin (depth + 1) ++ linesAt (depth + 1) item ++ ",\n" ++ margin depth ++ ")"
  | record name fields =>
    name ++ " \x7b\n" ++ String.join (fieldLinesAt (depth + 1) fields) ++ margin depth ++ "\x7d"

def fieldLinesAt (depth : Nat) : List (String × Outline) → List String
  | [] => []
  | (name, item) :: rest =>
    (margin depth ++ name ++ ": " ++ linesAt depth item ++ ",\n") :: fieldLinesAt depth rest

end

/-- On lines of their own. -/
def lines (o : Outline) : String := linesAt 0 o

end Outline
end Text
end SingleFlight
