import SingleFlight.Json

/-!
Log records: a level, the place that wrote it, a message and named fields.
-/

namespace SingleFlight
namespace Log

/-- From the most talkative to the gravest. -/
inductive Level where
  | trace
  | debug
  | info
  | warn
  | error
deriving DecidableEq, Repr

namespace Level

def name : Level → String
  | trace => "TRACE"
  | debug => "DEBUG"
  | info => "INFO"
  | warn => "WARN"
  | error => "ERROR"

/-- A higher rank is a graver level. -/
def rank : Level → Nat
  | trace => 0
  | debug => 1
  | info => 2
  | warn => 3
  | error => 4

def all : List Level := [trace, debug, info, warn, error]

/-- The name in lower case. -/
def lowerName : Level → String
  | trace => "trace"
  | debug => "debug"
  | info => "info"
  | warn => "warn"
  | error => "error"

/-- The level with this lower-case name. -/
def named? (name : String) : Option Level := all.find? fun l => l.lowerName == name

/-- A level in JSON: its lower-case name, alone or as the only member of an object, with nothing
for its value. -/
def ofJson? : Json.Value → Option Level
  | .text name => named? name
  | .object [(name, .null)] => named? name
  | _ => none

end Level

/-- A field's value.  A `label` is written as it is and a `text` between quotes where the format
tells texts from other values. -/
inductive Value where
  | label (text : String)
  | text (text : String)
  | number (n : Nat)
deriving DecidableEq, Repr

structure Record where
  level : Level
  target : String
  message : String
  fields : List (String × Value)
deriving DecidableEq, Repr

end Log
end SingleFlight
