import SingleFlight.Settings
import SingleFlight.Yaml.Node

/-!
Settings from YAML texts.

Every field may be left out, and fields that are not known are passed over.  A known field must not
come twice.  A section may be left empty, but must not be anything else than a mapping.
-/

namespace SingleFlight
namespace Settings

open Yaml (Document Node Style)

/-! ## Scalars -/

/-- Digits of a base up to sixteen; at least one, and a number of 64 bits. -/
def digits? (base : Nat) (cs : List Char) : Option Nat := do
  if cs.isEmpty then none
  let n ← cs.foldlM (fun n c =>
    (Yaml.hexDigit? c).bind fun d => if d < base then some (base * n + d) else none) 0
  if n ≤ 18446744073709551615 then some n else none

/-- Decimal digits with a needless zero in front are no number. -/
def hasLeadingZero : List Char → Bool
  | '0' :: c :: rest => (c :: rest).all Char.isDigit
  | _ => false

/-- A natural number in decimal, hexadecimal, octal or binary digits, perhaps after a plus. -/
def natural? (text : String) : Option Nat :=
  let unsigned := match text.toList with
    | '+' :: rest => rest
    | cs => cs
  let based := match unsigned with
    | '0' :: 'x' :: rest => digits? 16 rest
    | '0' :: 'o' :: rest => digits? 8 rest
    | '0' :: 'b' :: rest => digits? 2 rest
    | _ => none
  based.or (if hasLeadingZero unsigned then none else digits? 10 unsigned)

def truth? (text : String) : Option Bool :=
  if ["true", "True", "TRUE"].contains text then some true
  else if ["false", "False", "FALSE"].contains text then some false
  else none

def isNull (text : String) : Bool := ["", "~", "null", "Null", "NULL"].contains text

/-- The tag of the standard types. -/
def standardTag (name : String) : String := "tag:yaml.org,2002:" ++ name

/-- A scalar that is read by what it looks like: a plain one, or a literal one with the tag of its
type. -/
def isBare (type : String) (tag : Option String) : Style → Bool
  | .plain => true
  | .literal => tag == some (standardTag type)
  | _ => false

def readNatural (d : Document) (n : Node) : Option Nat :=
  match d.resolve? n with
  | some (.scalar tag style text) => if isBare "int" tag style then natural? text else none
  | _ => none

def readTruth (d : Document) (n : Node) : Option Bool :=
  match d.resolve? n with
  | some (.scalar tag style text) => if isBare "bool" tag style then truth? text else none
  | _ => none

/-- Any scalar is a text, whatever it looks like. -/
def readText (d : Document) (n : Node) : Option String :=
  match d.resolve? n with
  | some (.scalar _ _ text) => some text
  | _ => none

def formatNamed : String → Option Log.Format
  | "json" => some .json
  | "compact" => some .compact
  | _ => none

/-- A format is a text, or a tag of its name on nothing. -/
def readFormat (d : Document) (n : Node) : Option Log.Format :=
  match d.resolve? n with
  | some (.scalar tag style text) =>
    match tag.map String.toList with
    | some ('!' :: name) =>
      if style = .plain && isNull text then formatNamed (String.ofList name) else none
    | _ => formatNamed text
  | _ => none

/-! ## Sections -/

/-- The members of a section, by name.  A section that is left empty has none. -/
def members? (d : Document) (n : Node) : Option (List (String × Node)) :=
  match d.resolve? n with
  | some (.mapping _ pairs) =>
    pairs.mapM fun (k, v) => (readText d k).map (·, v)
  | some (.scalar _ .plain "") => some []
  | _ => none

/-- The value of a field, if it is there; it must not be there twice. -/
def field {α : Type} (members : List (String × Node)) (name : String) (default : α)
    (read : Node → Option α) : Option α :=
  match members.filter fun m => m.1 == name with
  | [] => some default
  | [(_, v)] => read v
  | _ => none

def readBackoff (d : Document) (n : Node) : Option Backoff := do
  let ms ← members? d n
  some
    { base := ← field ms "base_delay_ms" 1000 (readNatural d)
      limit := ← field ms "max_delay_ms" 30000 (readNatural d) }

def readTokenCache (d : Document) (n : Node) : Option TokenCacheSettings := do
  let ms ← members? d n
  let standard : TokenCacheSettings := {}
  some
    { leadSeconds := ← field ms "lead_time_seconds" standard.leadSeconds (readNatural d)
      backoff := ← field ms "retry" standard.backoff (readBackoff d) }

def readLogging (d : Document) (n : Node) : Option LoggingSettings := do
  let ms ← members? d n
  let standard : LoggingSettings := {}
  some
    { level := ← field ms "level" standard.level (readText d)
      format := ← field ms "format" standard.format (readFormat d) }

def readMetrics (d : Document) (n : Node) : Option MetricsSettings := do
  let ms ← members? d n
  let standard : MetricsSettings := {}
  some
    { isEnabled := ← field ms "is_enabled" standard.isEnabled (readTruth d)
      space := ← field ms "namespace" standard.space (readText d) }

def readDocument (d : Document) : Option Settings := do
  let ms ← members? d d.root
  some
    { tokenCache := ← field ms "token_cache" {} (readTokenCache d)
      logging := ← field ms "logging" {} (readLogging d)
      metrics := ← field ms "metrics" {} (readMetrics d) }

/-! ## Texts and files -/

inductive ReadError where
  /-- The file holds no text. -/
  | unreadable
  /-- The text is not YAML, or not of the form of settings. -/
  | malformed
  | invalid (issues : List Issue)
deriving DecidableEq, Repr

/-- Settings of the right form; a text without content leaves everything out. -/
def parseForm (text : String) : Option Settings :=
  match Document.read text with
  | some (some d) => readDocument d
  | some none => some {}
  | none => none

def parse (text : String) : Except ReadError Settings :=
  match parseForm text with
  | none => .error .malformed
  | some s =>
    match s.validate with
    | .ok _ => .ok s
    | .error issues => .error (.invalid issues)

/-- The content of a file, or nothing where there is no file to be read. -/
def load (content : Option (List UInt8)) : Except ReadError Settings :=
  match content.bind fun bytes => String.fromUTF8? ⟨bytes.toArray⟩ with
  | some text => parse text
  | none => .error .unreadable

/-- What is told of a file that could not be read. -/
def unreadableText (path : String) : String := "failed to read settings file " ++ path

end Settings
end SingleFlight
