import SingleFlight.Log
import SingleFlight.Text.Alphanumeric
import SingleFlight.Text.Blank
import SingleFlight.Text.Natural

/-!
Which records are kept.

A filter is a list of directives, written with commas between them.  A directive gives the least
level that passes, for all records or for those of some targets, and may ask for a span or a field:
`target[span{field=value}]=level`, where every part can be missing.  Of the directives that
are about a record the most specific one decides, and a record that none is about is dropped.
-/

namespace SingleFlight
namespace Log

/-- How grave a record must be to pass. -/
inductive Threshold where
  | off
  | least (level : Level)
deriving DecidableEq, Repr

namespace Threshold

def passes : Threshold → Level → Bool
  | off, _ => false
  | least bound, level => bound.rank ≤ level.rank

/-- A level's name in letters of either case, `off`, or a number: how many of the levels pass, from
the gravest on. -/
def ofText? (s : String) : Option Threshold :=
  match Text.natural64? s.toList with
  | some 0 => some off
  | some (n + 1) => Level.all.reverse[n]?.map least
  | none => if s.toLower == "off" then some off else (Level.named? s.toLower).map least

end Threshold

/-- A field that a record must have, and what its value must be. -/
structure FieldTest where
  name : String
  value : Option String
deriving DecidableEq, Repr

/-- The name ends at an equals sign, and the value at the next one. -/
def FieldTest.ofText (s : String) : FieldTest :=
  match s.splitOn "=" with
  | name :: value :: _ => { name := name, value := some value }
  | _ => { name := s, value := none }

structure Directive where
  threshold : Threshold := .least .trace
  /-- What the targets of its records start with. -/
  target : Option String := none
  span : Option String := none
  field : Option FieldTest := none
deriving DecidableEq, Repr

namespace Directive

/-- Whether the directive is about a record.  No record is written inside a span, so a directive
that names one or asks for a field's value is about none. -/
def concerns (d : Directive) (r : Record) : Bool :=
  let onTarget := match d.target with
    | none => true
    | some target => target.toList.isPrefixOf r.target.toList
  let onField := match d.field with
    | none => true
    | some test => test.value.isNone && ("message" :: r.fields.map Prod.fst).contains test.name
  d.span.isNone && onTarget && onField

/-- The length of the target; no target is less than any. -/
def weight (d : Directive) : Nat :=
  match d.target with
  | none => 0
  | some target => target.utf8ByteSize + 1

def fieldName (d : Directive) : String :=
  match d.field with
  | none => ""
  | some test => test.name

/-- Whether `b` is as specific as `a` or more: a longer target is more specific, then a field is
more than none, and the later name of two decides. -/
def yieldsTo (a b : Directive) : Bool :=
  a.weight < b.weight || a.weight == b.weight && decide (a.fieldName ≤ b.fieldName)

/-! ### Reading

The parts of a directive are found in the text without the blanks around it, but cut out of the
text as it stands, at the same numbers of bytes.  So blanks in front shift every part. -/

/-- A place in a text, as the number of bytes before it, with the character there. -/
abbrev Placed := Nat × Char

def placedFrom : Nat → List Char → List Placed
  | _, [] => []
  | n, c :: cs => (n, c) :: placedFrom (n + c.utf8Size) cs

/-- What a text holds between two places. -/
def cut? (text : String) (start stop : Nat) : Option String :=
  String.fromUTF8? (text.toUTF8.extract start stop)

/-- Whether a level or a target can start with the character. -/
def canStart (c : Char) : Bool := Text.isAlphanumeric c || c == '-' || c == ':' || c == '_'

/-- The level from a place to the end of the text.  Nothing there lets every level pass. -/
def thresholdFrom? (text : String) (start : Nat) : Option Threshold := do
  let level ← cut? text start text.utf8ByteSize
  if level.isEmpty then some (.least .trace) else Threshold.ofText? level

/-- What follows a closing bracket: a level, or nothing. -/
def afterBracket? (text : String) (d : Directive) : List Placed → Option Directive
  | [] => some d
  | (n, '=') :: _ => do some { d with threshold := ← thresholdFrom? text (n + 1) }
  | _ => none

/-- What follows an opening bracket, which ends at `start`: a span's name, a field, or both. -/
def bracket? (text : String) (d : Directive) (start : Nat) (rest : List Placed) :
    Option Directive :=
  match rest.dropWhile fun (_, c) => c != ']' && c != '\x7b' with
  | (n, ']') :: rest => do afterBracket? text { d with span := some (← cut? text start n) } rest
  | (n, _) :: rest => do
    let span ← cut? text start n
    match rest.dropWhile fun (_, c) => c != '\x7d' with
    | (m, _) :: (_, ']') :: rest =>
      let field ← cut? text (n + 1) m
      if field.isEmpty then none
      else
        afterBracket? text
          { d with
            span := if span.isEmpty then none else some span
            field := some (FieldTest.ofText field) } rest
    | _ => none
  | [] => none

/-- A text alone is a level if it can be read as one, and else a target, of which every level
passes. -/
def alone (text : String) : Directive :=
  match Threshold.ofText? text with
  | some threshold => { threshold := threshold }
  | none => { target := some text }

def ofText? (text : String) : Option Directive :=
  match placedFrom 0 (Text.trim text).toList with
  | [] => none
  | (_, '[') :: rest => bracket? text {} 1 rest
  | (n, c) :: rest =>
    if canStart c then
      match rest.dropWhile fun (_, c) => c != '=' && c != '[' with
      | [] => some (alone text)
      | (m, '=') :: _ => do
        some { target := some (← cut? text n m), threshold := ← thresholdFrom? text (m + 1) }
      | (m, _) :: rest => do bracket? text { target := some (← cut? text n m) } (m + 1) rest
    else none

end Directive

structure Filter where
  directives : List Directive
deriving DecidableEq, Repr

namespace Filter

/-- Everything from one level on. -/
def atLeast (level : Level) : Filter := { directives := [{ threshold := .least level }] }

/-- The filter that a text describes.  One that describes nothing, or cannot be read, stands for
everything that is no mere detail. -/
def ofText (text : String) : Filter :=
  match ((text.splitOn ",").filter (!·.isEmpty)).mapM Directive.ofText? with
  | none | some [] => atLeast .info
  | some directives => { directives := directives }

/-- The most specific of the directives about a record.  Of equally specific ones it is the last. -/
def deciding? (f : Filter) (r : Record) : Option Directive :=
  (f.directives.filter (·.concerns r)).foldl (fun best d =>
    match best with
    | none => some d
    | some b => if b.yieldsTo d then some d else some b) none

def keeps (f : Filter) (r : Record) : Bool :=
  match f.deciding? r with
  | none => false
  | some d => d.threshold.passes r.level

end Filter

end Log
end SingleFlight
