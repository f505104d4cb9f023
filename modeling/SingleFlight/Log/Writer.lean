import SingleFlight.Log.Filter
import SingleFlight.Text.Quoted

/-!
How records are written, and the one writer of a process.
-/

namespace SingleFlight
namespace Log

inductive Format where
  | json
  | compact
deriving DecidableEq, Repr

/-- A record as it is written, apart from the time. -/
inductive Written where
  /-- The members of a JSON object. -/
  | members (members : List (String × Value))
  | line (text : String)
deriving DecidableEq, Repr

namespace Record

def members (r : Record) : List (String × Value) :=
  ("level", .text r.level.name) :: ("target", .text r.target) :: ("message", .text r.message) ::
    r.fields

/-- What stands for a character of a message in a line: characters that a terminal would obey are
spelled out. -/
def lineChar (c : Char) : List Char :=
  match c with
  | '\x1b' => ['\\', 'x', '1', 'b']
  | '\x07' => ['\\', 'x', '0', '7']
  | '\x08' => ['\\', 'x', '0', '8']
  | '\x0c' => ['\\', 'x', '0', 'c']
  | '\x7f' => ['\\', 'x', '7', 'f']
  | c => if 0x80 ≤ c.toNat ∧ c.toNat ≤ 0x9F then Text.codePointEscape c else [c]

def fieldText : String × Value → String
  | (name, .label s) => name ++ "=" ++ s
  | (name, .text s) => name ++ "=" ++ Text.quoted s
  | (name, .number n) => name ++ "=" ++ toString n

/-- The level, the target, the message and the fields, with a blank between them. -/
def line (r : Record) : String :=
  let message := String.ofList (r.message.toList.flatMap lineChar)
  " ".intercalate (r.level.name :: (r.target ++ ":") :: message :: r.fields.map fieldText)

def written (r : Record) : Format → Written
  | .json => .members r.members
  | .compact => .line r.line

end Record

structure Writer where
  filter : Filter
  format : Format
deriving DecidableEq, Repr

namespace Writer

/-- The records that pass, as they are written. -/
def write (w : Writer) (records : List Record) : List Written :=
  (records.filter w.filter.keeps).map (·.written w.format)

/-- A process has room for one writer: the first one stays.  The answer tells whether it was this
one. -/
def install (w : Writer) : Option Writer → Writer × Bool
  | none => (w, true)
  | some first => (first, false)

end Writer

end Log
end SingleFlight
