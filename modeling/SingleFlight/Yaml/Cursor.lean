/-!
A place in a YAML text: what is left of it, and where that stands.
-/

namespace SingleFlight
namespace Yaml

/-- Spaces and tabs. -/
def isGap (c : Char) : Bool := c == ' ' || c == '\t'

/-- The characters that end a line. -/
def isBreak (c : Char) : Bool :=
  c == '\n' || c == '\r' || c == '\u0085' || c == '\u2028' || c == '\u2029'

def isGapOrBreak (c : Char) : Bool := isGap c || isBreak c

/-- Letters, digits, the underscore and the hyphen. -/
def isWordChar (c : Char) : Bool := c.isAlphanum || c == '_' || c == '-'

/-- The characters that a text may hold. -/
def isAllowed (c : Char) : Bool :=
  let n := c.toNat
  n == 9 || n == 10 || n == 13 || (0x20 ≤ n && n ≤ 0x7E) || n == 0x85 ||
    (0xA0 ≤ n && n ≤ 0xFFFD) || 0x10000 ≤ n

/-- Lines and columns count from zero, and `index` counts the characters passed. -/
structure Cursor where
  rest : List Char
  index : Nat
  line : Nat
  column : Nat

namespace Cursor

def start (cs : List Char) : Cursor := { rest := cs, index := 0, line := 0, column := 0 }

def peek? (c : Cursor) : Option Char := c.rest.head?

/-- The character `n` places ahead. -/
def ahead? (c : Cursor) (n : Nat) : Option Char := c.rest[n]?

def isAt (c : Cursor) (ch : Char) : Bool := c.rest.head? == some ch

def atEnd (c : Cursor) : Bool := c.rest.isEmpty

/-- Whether the character `n` places ahead is blank, a line's end, or past the end. -/
def blankAhead (c : Cursor) (n : Nat) : Bool :=
  match c.ahead? n with
  | some ch => isGapOrBreak ch
  | none => true

def breakAhead (c : Cursor) (n : Nat) : Bool :=
  match c.ahead? n with
  | some ch => isBreak ch
  | none => false

/-- On by `n` characters of one line. -/
def skip (c : Cursor) (n : Nat) : Cursor :=
  { c with rest := c.rest.drop n, index := c.index + n, column := c.column + n }

/-- On to the next line, from its end; carriage return and line feed together are one end. -/
def skipLine (c : Cursor) : Cursor :=
  match c.rest with
  | '\r' :: '\n' :: rest =>
    { rest := rest, index := c.index + 2, line := c.line + 1, column := 0 }
  | ch :: rest =>
    if isBreak ch then { rest := rest, index := c.index + 1, line := c.line + 1, column := 0 }
    else c
  | [] => c

/-- What a line's end becomes in a scalar: the two Unicode separators stay as they are, and any
other end is a line feed. -/
def breakText (c : Cursor) : List Char :=
  match c.rest with
  | '\u2028' :: _ => ['\u2028']
  | '\u2029' :: _ => ['\u2029']
  | ch :: _ => if isBreak ch then ['\n'] else []
  | [] => []

/-- The longest run of characters with a property; it holds no line's end. -/
def span (p : Char → Bool) (c : Cursor) : List Char × Cursor :=
  let run := c.rest.takeWhile fun ch => p ch && !isBreak ch
  (run, c.skip run.length)

/-- Past a run of characters. -/
def skipWhile (p : Char → Bool) (c : Cursor) : Cursor := (c.span p).2

/-- Past a comment, if there is one. -/
def skipComment (c : Cursor) : Cursor := if c.isAt '#' then c.skipWhile (fun _ => true) else c

/-- Past blanks and a comment, to the end of the line, which must come then. -/
def finishLine? (c : Cursor) : Option Cursor :=
  let c := (c.skipWhile isGap).skipComment
  if c.atEnd then some c
  else if c.breakAhead 0 then some c.skipLine
  else none

/-- Whether three hyphens or three points stand at the start of a line, for themselves. -/
def atDocumentMark (mark : Char) (c : Cursor) : Bool :=
  c.column == 0 && c.ahead? 0 == some mark && c.ahead? 1 == some mark && c.ahead? 2 == some mark &&
    c.blankAhead 3

def atAnyDocumentMark (c : Cursor) : Bool := c.atDocumentMark '-' || c.atDocumentMark '.'

end Cursor
end Yaml
end SingleFlight
