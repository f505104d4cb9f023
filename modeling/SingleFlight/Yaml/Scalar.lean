import SingleFlight.Yaml.Cursor

/-!
Scalars of YAML texts: plain, quoted and block.

In plain and quoted scalars a gap between two words may run over several lines.  A gap within a line
stays as it is; a gap with one line's end becomes a space, and one with more loses the first.
-/

namespace SingleFlight
namespace Yaml

inductive Style where
  | plain
  | singleQuoted
  | doubleQuoted
  | literal
  | folded
deriving DecidableEq, Repr

/-! ## Gaps -/

/-- What stands between two words. -/
structure Gap where
  spaces : List Char
  /-- Whether the line ended. -/
  broken : Bool
  /-- The first end of a line, and the further ones. -/
  first : List Char
  further : List Char

namespace Gap

def empty : Gap := { spaces := [], broken := false, first := [], further := [] }

/-- What the gap becomes. -/
def text (g : Gap) : List Char :=
  if g.broken then
    if g.first == ['\n'] then (if g.further.isEmpty then [' '] else g.further)
    else g.first ++ g.further
  else g.spaces

/-- Read on in a gap.  Where a line begins with fewer columns than `indent`, a tab is refused. -/
def read (indent : Option Int) : Nat → Gap → Cursor → Option (Gap × Cursor)
  | 0, g, c => some (g, c)
  | fuel + 1, g, c =>
    match c.peek? with
    | some ch =>
      if isGap ch then
        if g.broken && ch == '\t' && (indent.any fun i => (c.column : Int) < i) then none
        else
          let g := if g.broken then g else { g with spaces := g.spaces ++ [ch] }
          read indent fuel g (c.skip 1)
      else if isBreak ch then
        let g :=
          if g.broken then { g with further := g.further ++ c.breakText }
          else { g with spaces := [], broken := true, first := c.breakText }
        read indent fuel g c.skipLine
      else some (g, c)
    | none => some (g, c)

end Gap

/-! ## Plain scalars -/

def isFlowIndicator (c : Char) : Bool :=
  c == ',' || c == '[' || c == ']' || c == '\x7b' || c == '\x7d'

/-- The number of characters up to the end of a word.  In a flow collection a colon must not stand
before an indicator. -/
def plainWord (flow : Bool) : List Char → Option Nat
  | [] => some 0
  | ch :: rest =>
    if isGapOrBreak ch then some 0
    else if flow && ch == ':' &&
        (rest.head?.any fun next => isFlowIndicator next || next == '?') then none
    else if ch == ':' && (rest.head?.all isGapOrBreak) then some 0
    else if flow && isFlowIndicator ch then some 0
    else (plainWord flow rest).map (· + 1)

/-- The words of a plain scalar and the gaps between them.  The last part says whether the scalar
was left at the start of a line. -/
def plainFrom (flow : Bool) (indent : Int) :
    Nat → List Char → Gap → Cursor → Option (List Char × Cursor × Bool)
  | 0, text, _, c => some (text, c, false)
  | fuel + 1, text, gap, c =>
    if c.atAnyDocumentMark || c.isAt '#' then some (text, c, gap.broken)
    else
      match plainWord flow c.rest with
      | none => none
      | some 0 => some (text, c, gap.broken)
      | some n =>
        let text := text ++ gap.text ++ c.rest.take n
        let c := c.skip n
        if c.atEnd || !c.blankAhead 0 then some (text, c, false)
        else
          match Gap.read (some indent) c.rest.length Gap.empty c with
          | none => none
          | some (gap, c) =>
            if !flow && (c.column : Int) < indent then some (text, c, gap.broken)
            else plainFrom flow indent fuel text gap c

/-! ## Quoted scalars -/

def hexDigit? (c : Char) : Option Nat :=
  if '0' ≤ c && c ≤ '9' then some (c.toNat - 48)
  else if 'a' ≤ c && c ≤ 'f' then some (c.toNat - 87)
  else if 'A' ≤ c && c ≤ 'F' then some (c.toNat - 55)
  else none

/-- The character that so many hexadecimal digits name; surrogates are none. -/
def hexChar? (digits : List Char) : Option Char := do
  let n ← digits.foldlM (fun n d => (hexDigit? d).map (16 * n + ·)) 0
  if n < 0xD800 || (0xDFFF < n && n ≤ 0x10FFFF) then some (Char.ofNat n) else none

/-- The escapes of one letter. -/
def escapes : List (Char × Char) :=
  [('0', '\x00'), ('a', '\x07'), ('b', '\x08'), ('t', '\t'), ('\t', '\t'), ('n', '\n'),
    ('v', '\x0b'), ('f', '\x0c'), ('r', '\r'), ('e', '\x1b'), (' ', ' '), ('"', '"'), ('/', '/'),
    ('\\', '\\'), ('N', '\u0085'), ('_', '\u00a0'), ('L', '\u2028'), ('P', '\u2029')]

/-- The character of the escape at the cursor, and the length of the escape. -/
def escape? (c : Cursor) : Option (Char × Nat) := do
  let letter ← c.ahead? 1
  let code (n : Nat) : Option (Char × Nat) :=
    let digits := (c.rest.drop 2).take n
    if digits.length = n then (hexChar? digits).map (·, 2 + n) else none
  if letter == 'x' then code 2
  else if letter == 'u' then code 4
  else if letter == 'U' then code 8
  else (escapes.lookup letter).map (·, 2)

/-- A quoted scalar after its first quote.  A backslash at the end of a line joins it to the
next. -/
def quotedFrom (single : Bool) : Nat → List Char → Cursor → Option (List Char × Cursor)
  | 0, _, _ => none
  | fuel + 1, text, c =>
    if c.atAnyDocumentMark then none
    else
      match c.peek? with
      | none => none
      | some ch =>
        if single && ch == '\'' then
          if c.ahead? 1 == some '\'' then quotedFrom single fuel (text ++ ['\'']) (c.skip 2)
          else some (text, c.skip 1)
        else if !single && ch == '"' then some (text, c.skip 1)
        else if !single && ch == '\\' then
          if c.breakAhead 1 then
            let c := (c.skip 1).skipLine
            match Gap.read none c.rest.length { Gap.empty with broken := true } c with
            | some (gap, c) => quotedFrom single fuel (text ++ gap.first ++ gap.further) c
            | none => none
          else
            match escape? c with
            | some (ch, n) => quotedFrom single fuel (text ++ [ch]) (c.skip n)
            | none => none
        else if isGapOrBreak ch then
          match Gap.read none c.rest.length Gap.empty c with
          | some (gap, c) => quotedFrom single fuel (text ++ gap.text) c
          | none => none
        else quotedFrom single fuel (text ++ [ch]) (c.skip 1)

/-! ## Block scalars -/

/-- What becomes of the line ends at the end of a block scalar. -/
inductive Chomping where
  | strip
  | clip
  | keep
deriving DecidableEq, Repr

/-- Past the indentation and the empty lines before a line of a block scalar: their ends, and the
greatest column reached.  With no indentation known any number of spaces is passed. -/
def blockGap (indent : Nat) :
    Nat → List Char → Nat → Cursor → Option (List Char × Nat × Cursor)
  | 0, _, _, _ => none
  | fuel + 1, ends, widest, c =>
    let run := c.rest.takeWhile (· == ' ')
    let c := c.skip (if indent = 0 then run.length else min run.length (indent - c.column))
    let widest := max widest c.column
    if (indent = 0 || c.column < indent) && c.isAt '\t' then none
    else if c.breakAhead 0 then blockGap indent fuel (ends ++ c.breakText) widest c.skipLine
    else some (ends, widest, c)

/-- The lines of a block scalar.  `pending` is the end of the last line, `further` are the ends of
the empty lines after it, and `blank` says whether the last line began with a blank. -/
def blockLines (folded : Bool) (indent : Nat) :
    Nat → List Char → List Char → List Char → Bool → Cursor →
      Option (List Char × List Char × List Char × Cursor)
  | 0, _, _, _, _, _ => none
  | fuel + 1, text, pending, further, blank, c =>
    if c.column == indent && !c.atEnd then
      let blankNow := c.blankAhead 0 && !c.breakAhead 0
      let joined :=
        if folded && pending == ['\n'] && !blank && !blankNow then
          if further.isEmpty then [' '] else []
        else pending
      let (line, c) := c.span fun _ => true
      let text := text ++ joined ++ further ++ line
      let pending := c.breakText
      match blockGap indent (c.rest.length + 1) [] 0 c.skipLine with
      | some (further, _, c) => blockLines folded indent fuel text pending further blankNow c
      | none => none
    else some (text, pending, further, c)

/-- The header of a block scalar after its indicator: an indentation and a chomping, in any
order. -/
def blockHeader (c : Cursor) : Option (Chomping × Nat × Cursor) :=
  let chomping? : Option Char → Option Chomping
    | some '+' => some .keep
    | some '-' => some .strip
    | _ => none
  let digit? : Option Char → Option Nat
    | some d => if d.isDigit then some (d.toNat - 48) else none
    | none => none
  match chomping? c.peek?, digit? c.peek? with
  | some chomping, _ =>
    match digit? (c.ahead? 1) with
    | some 0 => none
    | some n => some (chomping, n, c.skip 2)
    | none => some (chomping, 0, c.skip 1)
  | none, some 0 => none
  | none, some n =>
    match chomping? (c.ahead? 1) with
    | some chomping => some (chomping, n, c.skip 2)
    | none => some (.clip, n, c.skip 1)
  | none, none => some (.clip, 0, c)

/-- A block scalar after its indicator, in a block that is indented by `parent`. -/
def blockScalar (folded : Bool) (parent : Int) (c : Cursor) : Option (List Char × Cursor) := do
  let (chomping, increment, c) ← blockHeader c
  let c ← c.finishLine?
  let given := if increment = 0 then 0
    else if 0 ≤ parent then parent.toNat + increment else increment
  let (further, widest, c) ← blockGap given (c.rest.length + 1) [] 0 c
  let indent := if given = 0 then max widest (max (parent + 1).toNat 1) else given
  let (text, pending, further, c) ←
    blockLines folded indent (c.rest.length + 1) [] [] further false c
  let tail := match chomping with
    | .strip => []
    | .clip => pending
    | .keep => pending ++ further
  some (text ++ tail, c)

end Yaml
end SingleFlight
