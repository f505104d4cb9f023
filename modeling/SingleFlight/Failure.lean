/-!
Why a resource could not be had.

A fetcher fails with a `Failure`: a root, and the contexts that were put around it on the way up.
The caches answer with a `ResourceError`.  `Failure.classify` leads from one to the other: an error
of ours that lies under any number of contexts is itself the answer, and anything else becomes a
fetch error that names the parameters and keeps the whole chain as its cause.
-/

namespace SingleFlight

/-- What the callers of a cache are told.  The causes of a fetch error go from the outermost
context to the root. -/
inductive ResourceError where
  | missingParameter (name : String)
  | configuration (message : String)
  | fetch (parameters : String) (causes : List String)
deriving DecidableEq, Repr

/-- The two labels under which failures are counted. -/
inductive ErrorKind where
  | configuration
  | fetch
deriving DecidableEq, Repr

def ErrorKind.label : ErrorKind → String
  | .configuration => "configuration"
  | .fetch => "fetch"

/-- A chain of causes on one line, outermost first. -/
def chainText (chain : List String) : String := ": ".intercalate chain

namespace ResourceError

def message : ResourceError → String
  | missingParameter name => "missing required parameter '" ++ name ++ "'"
  | configuration message => "invalid configuration: " ++ message
  | fetch parameters causes =>
    "failed to request a resource with parameters " ++ parameters ++ ": " ++ chainText causes

def kind : ResourceError → ErrorKind
  | missingParameter _ => .configuration
  | configuration _ => .configuration
  | fetch _ _ => .fetch

/-- A configuration error fails the same way on every attempt. -/
def isConfiguration (e : ResourceError) : Bool := e.kind == .configuration

def isRetryable (e : ResourceError) : Bool := e.kind == .fetch

/-- The causes of a fetch error. -/
def causes? : ResourceError → Option (List String)
  | fetch _ causes => some causes
  | _ => none

end ResourceError

/-- The innermost cause: a text, or an error of ours. -/
inductive Root where
  | plain (text : String)
  | resource (error : ResourceError)
deriving DecidableEq, Repr

def Root.text : Root → String
  | plain text => text
  | resource error => error.message

/-- A root under contexts, the outermost first. -/
structure Failure where
  contexts : List String
  root : Root
deriving DecidableEq, Repr

namespace Failure

def plain (text : String) : Failure := { contexts := [], root := .plain text }

def ofResourceError (error : ResourceError) : Failure :=
  { contexts := [], root := .resource error }

/-- One more context around the failure. -/
def context (f : Failure) (text : String) : Failure :=
  { f with contexts := text :: f.contexts }

/-- A text, and under it the causes that led to it, outermost first. -/
def ofCauses (text : String) : List String → Failure
  | [] => plain text
  | cause :: causes => (ofCauses cause causes).context text

/-- All texts from the outermost context to the root. -/
def chain (f : Failure) : List String := f.contexts ++ [f.root.text]

def text (f : Failure) : String := chainText f.chain

/-- The outermost text. -/
def outer (f : Failure) : String := f.contexts.headD f.root.text

/-- The error of ours that lies at the root, if one does. -/
def resourceError? (f : Failure) : Option ResourceError :=
  match f.root with
  | .resource error => some error
  | .plain _ => none

/-- What the callers of a fetch with these parameters are told. -/
def classify (parameters : String) (f : Failure) : ResourceError :=
  match f.root with
  | .resource error => error
  | .plain _ => .fetch parameters f.chain

def isConfiguration (f : Failure) : Bool :=
  match f.resourceError? with
  | some error => error.isConfiguration
  | none => false

end Failure

/-- How a fetch ends: it returns, or it panics with a text or with something that is no text. -/
inductive Ending (α : Type) where
  | returned (result : Except Failure α)
  | panicked (text : Option String)

/-- What a fetch tells the callers that wait for it. -/
abbrev Outcome (α : Type) := Except ResourceError α

/-- The text of the error that a panic becomes. -/
def panicText (text : Option String) : String :=
  "fetcher panicked: " ++ text.getD "non-string panic payload"

/-- The outcome that the callers of a fetch with these parameters share. -/
def Ending.outcome {α : Type} (parameters : String) : Ending α → Outcome α
  | returned (.ok value) => .ok value
  | returned (.error failure) => .error (failure.classify parameters)
  | panicked text => .error (.fetch parameters [panicText text])

/-! ## Laws of classification -/

theorem Failure.resourceError?_context (f : Failure) (text : String) :
    (f.context text).resourceError? = f.resourceError? := rfl

/-- No text is taken for an error of ours. -/
theorem Failure.resourceError?_ofCauses (text : String) (causes : List String) :
    (ofCauses text causes).resourceError? = none := by
  induction causes generalizing text with
  | nil => rfl
  | cons cause causes ih => rw [ofCauses, resourceError?_context, ih]

/-- Only a fetch that returns a value ends well. -/
theorem Ending.outcome_eq_ok_iff {α : Type} {ending : Ending α} {parameters : String} {value : α} :
    ending.outcome parameters = .ok value ↔ ending = .returned (.ok value) := by
  rcases ending with (failure | value') | text <;> simp [outcome]

end SingleFlight
