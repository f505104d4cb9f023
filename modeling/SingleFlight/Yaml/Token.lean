import SingleFlight.Yaml.Scalar

/-!
Tokens of YAML texts.

Indentation opens and closes blocks, so tokens for these are put in where no character stands for
them.  That something was a key shows only at the colon after it: at each place where a key may
start the lexer makes a note, and at the colon it puts the tokens that announce the key there.
-/

namespace SingleFlight
namespace Yaml

inductive Token where
  | version (major minor : Nat)
  /-- A directive: what a handle at the start of a tag stands for. -/
  | handle (name : String) (meaning : String)
  | documentStart
  | documentEnd
  | blockSequenceStart
  | blockMappingStart
  | blockEnd
  | flowSequenceStart
  | flowSequenceEnd
  | flowMappingStart
  | flowMappingEnd
  | blockEntry
  | flowEntry
  | key
  | value
  | alias (name : String)
  | anchor (name : String)
  | tag (handle : String) (rest : String)
  | scalar (style : Style) (text : String)
  | streamEnd
deriving DecidableEq, Repr

/-- A place where a key may have started. -/
structure KeyMark where
  /-- The number of tokens before it. -/
  position : Nat
  /-- A key that must be one, because a block mapping goes on here. -/
  required : Bool
  index : Nat
  line : Nat
  column : Nat

structure Lexer where
  cursor : Cursor
  tokens : Array Token
  /-- The column of the innermost block, and of those around it. -/
  indent : Int
  outer : List Int
  /-- The mark of the innermost flow collection or of the block level. -/
  mark : Option KeyMark
  /-- The marks of the collections around it; there are as many as flow collections. -/
  outerMarks : List (Option KeyMark)
  /-- Whether a key may start here. -/
  keyAllowed : Bool

namespace Lexer

def start (cs : List Char) : Lexer :=
  { cursor := Cursor.start cs, tokens := #[], indent := -1, outer := [], mark := none
    outerMarks := [], keyAllowed := true }

def inFlow (l : Lexer) : Bool := !l.outerMarks.isEmpty

def push (l : Lexer) (t : Token) : Lexer := { l with tokens := l.tokens.push t }

def insertAt (l : Lexer) (position : Nat) (t : Token) : Lexer :=
  { l with tokens := l.tokens.insertIdxIfInBounds position t }

/-- On by `n` characters. -/
def skip (l : Lexer) (n : Nat) : Lexer := { l with cursor := l.cursor.skip n }

/-! ## Blocks -/

/-- Open a block at the column, if it lies further in than the innermost.  Its token is put before
the token at the position. -/
def openBlock (l : Lexer) (column position : Nat) (t : Token) : Lexer :=
  if !l.inFlow && decide (l.indent < column) then
    { l with indent := column, outer := l.indent :: l.outer }.insertAt position t
  else l

/-- Close the blocks that lie further in than the column. -/
def closeFrom (column : Int) : List Int → Int → Array Token → List Int × Int × Array Token
  | [], indent, tokens => ([], indent, tokens)
  | next :: outer, indent, tokens =>
    if column < indent then closeFrom column outer next (tokens.push .blockEnd)
    else (next :: outer, indent, tokens)

def closeBlocks (l : Lexer) (column : Int) : Lexer :=
  if l.inFlow then l
  else
    let (outer, indent, tokens) := closeFrom column l.outer l.indent l.tokens
    { l with outer := outer, indent := indent, tokens := tokens }

/-! ## Marks -/

/-- A mark is too old on the next line, or after 1024 characters. -/
def isStale (l : Lexer) (m : KeyMark) : Bool :=
  m.line < l.cursor.line || m.index + 1024 < l.cursor.index

/-- A mark that is given up; a required key is then missed. -/
def giveUp : Option KeyMark → Option (Option KeyMark)
  | some m => if m.required then none else some none
  | none => some none

/-- Give up the marks that are too old. -/
def dropStale (l : Lexer) : Option Lexer := do
  let fresh (m : Option KeyMark) : Option (Option KeyMark) :=
    match m with
    | some k => if l.isStale k then giveUp m else some m
    | none => some none
  some { l with mark := ← fresh l.mark, outerMarks := ← l.outerMarks.mapM fresh }

def dropMark (l : Lexer) : Option Lexer := do
  some { l with mark := ← giveUp l.mark }

/-- A key may start here. -/
def markKey (l : Lexer) : Option Lexer :=
  if l.keyAllowed then do
    let l ← l.dropMark
    some { l with
      mark := some
        { position := l.tokens.size
          required := !l.inFlow && l.indent == (l.cursor.column : Int)
          index := l.cursor.index
          line := l.cursor.line
          column := l.cursor.column } }
  else some l

/-! ## Between tokens -/

/-- Past blanks, comments and line ends.  Tabs count as blanks where no key may start. -/
def skipToToken : Nat → Lexer → Lexer
  | 0, l => l
  | fuel + 1, l =>
    let c := l.cursor
    let c := if c.column == 0 && c.isAt '\uFEFF' then c.skip 1 else c
    let tabs := l.inFlow || !l.keyAllowed
    let c := (c.skipWhile fun ch => ch == ' ' || tabs && ch == '\t').skipComment
    if c.breakAhead 0 then
      skipToToken fuel { l with cursor := c.skipLine, keyAllowed := l.keyAllowed || !l.inFlow }
    else { l with cursor := c }

/-! ## Directives, anchors and tags -/

/-- A number of at most nine digits. -/
def number? (c : Cursor) : Option (Nat × Cursor) :=
  let (digits, c) := c.span Char.isDigit
  if digits.isEmpty || 9 < digits.length then none
  else some (digits.foldl (fun n d => 10 * n + (d.toNat - 48)) 0, c)

def isUriChar (flow : Bool) (c : Char) : Bool :=
  isWordChar c || ";/?:@&=+$.!~*'()".toList.contains c ||
    flow && (c == ',' || c == '[' || c == ']')

/-- One percent escape: a byte. -/
def escapedByte? : List Char → Option (Nat × List Char)
  | '%' :: a :: b :: rest => do
    some (16 * (← hexDigit? a) + (← hexDigit? b), rest)
  | _ => none

/-- The number of bytes of a character, from its first. -/
def byteCount? (first : Nat) : Option Nat :=
  if first < 0x80 then some 1
  else if 0xC0 ≤ first && first < 0xE0 then some 2
  else if 0xE0 ≤ first && first < 0xF0 then some 3
  else if 0xF0 ≤ first && first < 0xF8 then some 4
  else none

def furtherBytes : Nat → List Char → Option (List Nat × List Char)
  | 0, cs => some ([], cs)
  | n + 1, cs => do
    let (b, cs) ← escapedByte? cs
    if 0x80 ≤ b && b < 0xC0 then
      let (bs, cs) ← furtherBytes n cs
      some (b :: bs, cs)
    else none

/-- A character written as escapes of its bytes, and the length of the escapes. -/
def escapedChar? (cs : List Char) : Option (List Char × Nat) := do
  let (first, rest) ← escapedByte? cs
  let n ← byteCount? first
  let (bs, _) ← furtherBytes (n - 1) rest
  let bytes : List UInt8 := (first :: bs).map UInt8.ofNat
  some (((String.fromUTF8? ⟨bytes.toArray⟩).getD "\uFFFD").toList, 3 * n)

/-- The characters of a tag or of what a handle stands for. -/
def uri (flow : Bool) : Nat → List Char → Cursor → Option (List Char × Cursor)
  | 0, text, c => some (text, c)
  | fuel + 1, text, c =>
    match c.peek? with
    | some '%' =>
      match escapedChar? c.rest with
      | some (chars, n) => uri flow fuel (text ++ chars) (c.skip n)
      | none => none
    | some ch =>
      if isUriChar flow ch then uri flow fuel (text ++ [ch]) (c.skip 1) else some (text, c)
    | none => some (text, c)

/-- The handle of a tag: an exclamation mark, and perhaps a word and another mark. -/
def tagHandle? (directive : Bool) (c : Cursor) : Option (List Char × Cursor) :=
  if c.isAt '!' then
    let (word, c) := (c.skip 1).span isWordChar
    if c.isAt '!' then some ('!' :: word ++ ['!'], c.skip 1)
    else if directive && !word.isEmpty then none
    else some ('!' :: word, c)
  else none

def uriOf (flow : Bool) (c : Cursor) : Option (List Char × Cursor) := uri flow c.rest.length [] c

def someUriOf (flow : Bool) (c : Cursor) : Option (List Char × Cursor) := do
  let (text, rest) ← uriOf flow c
  if text.isEmpty && rest.index == c.index then none else some (text, rest)

/-- A directive after its percent sign. -/
def directive (c : Cursor) : Option (Token × Cursor) := do
  let (name, c) := c.span isWordChar
  if name.isEmpty || !c.blankAhead 0 then none
  else if name == "YAML".toList then
    let (major, c) ← number? (c.skipWhile isGap)
    if !c.isAt '.' then none
    else
      let (minor, c) ← number? (c.skip 1)
      some (.version major minor, ← c.finishLine?)
  else if name == "TAG".toList then
    let (handle, c) ← tagHandle? true (c.skipWhile isGap)
    if !(c.peek?.any isGap) then none
    else
      let (meaning, c) ← someUriOf true (c.skipWhile isGap)
      if !c.blankAhead 0 then none
      else some (.handle (String.ofList handle) (String.ofList meaning), ← c.finishLine?)
  else none

/-- An anchor or alias after its sign. -/
def anchorName? (c : Cursor) : Option (String × Cursor) :=
  let (name, c) := c.span isWordChar
  if name.isEmpty then none
  else if c.blankAhead 0 || (c.peek?.any fun ch => "?:,]\x7d%@`".toList.contains ch) then
    some (String.ofList name, c)
  else none

/-- A tag.  In a flow collection a comma may follow it at once. -/
def tag? (flow : Bool) (c : Cursor) : Option (Token × Cursor) := do
  let (t, c) ←
    if c.ahead? 1 == some '<' then do
      let (text, c) ← someUriOf true (c.skip 2)
      if c.isAt '>' then some (Token.tag "" (String.ofList text), c.skip 1) else none
    else do
      let (handle, c) ← tagHandle? false c
      if 2 ≤ handle.length && handle.getLast? == some '!' then
        let (text, c) ← someUriOf false c
        some (Token.tag (String.ofList handle) (String.ofList text), c)
      else
        let (text, c) ← uriOf false c
        let text := handle.drop 1 ++ text
        if text.isEmpty then some (Token.tag "" "!", c)
        else some (Token.tag "!" (String.ofList text), c)
  if c.blankAhead 0 || flow && c.isAt ',' then some (t, c) else none

/-! ## One token after another -/

/-- End all blocks, as a directive or a document mark does. -/
def resetBlocks (l : Lexer) : Option Lexer := do
  let l ← (l.closeBlocks (-1)).dropMark
  some { l with keyAllowed := false }

def openFlow (l : Lexer) (t : Token) : Option Lexer := do
  let l ← l.markKey
  some ({ l with mark := none, outerMarks := l.mark :: l.outerMarks, keyAllowed := true }.push t
    |>.skip 1)

def closeFlow (l : Lexer) (t : Token) : Option Lexer := do
  let l ← l.dropMark
  let l := match l.outerMarks with
    | m :: rest => { l with mark := m, outerMarks := rest }
    | [] => l
  some ({ l with keyAllowed := false }.push t |>.skip 1)

def flowEntry (l : Lexer) : Option Lexer := do
  let l ← l.dropMark
  some ({ l with keyAllowed := true }.push .flowEntry |>.skip 1)

/-- An indicator that may open a block: in a block it must stand where a key may start. -/
def blockIndicator (l : Lexer) (opening t : Token) (keyAllowed : Bool) : Option Lexer :=
  if !l.inFlow && !l.keyAllowed then none
  else do
    let l ← (l.openBlock l.cursor.column l.tokens.size opening).dropMark
    some ({ l with keyAllowed := keyAllowed }.push t |>.skip 1)

/-- A colon after a key: the key is announced where it started. -/
def valueIndicator (l : Lexer) : Option Lexer :=
  match l.mark with
  | some m =>
    let l := (l.insertAt m.position .key).openBlock m.column m.position .blockMappingStart
    some ({ l with mark := none, keyAllowed := false }.push .value |>.skip 1)
  | none =>
    if !l.inFlow && !l.keyAllowed then none
    else
      let l := l.openBlock l.cursor.column l.tokens.size .blockMappingStart
      some ({ l with keyAllowed := !l.inFlow }.push .value |>.skip 1)

/-- A token at whose start a key may start, and after which none may. -/
def keyToken (l : Lexer) (read : Cursor → Option (Token × Cursor)) : Option Lexer := do
  let l ← l.markKey
  let (t, c) ← read l.cursor
  some ({ l with cursor := c, keyAllowed := false }.push t)

def plainToken (l : Lexer) : Option Lexer := do
  let l ← l.markKey
  let (text, c, atLineStart) ←
    plainFrom l.inFlow (l.indent + 1) (l.cursor.rest.length + 1) [] Gap.empty l.cursor
  some ({ l with cursor := c, keyAllowed := atLineStart }.push
    (.scalar .plain (String.ofList text)))

def quotedToken (l : Lexer) (single : Bool) : Option Lexer :=
  l.keyToken fun c => do
    let (text, c) ← quotedFrom single (c.rest.length + 1) [] (c.skip 1)
    some (.scalar (if single then .singleQuoted else .doubleQuoted) (String.ofList text), c)

def blockScalarToken (l : Lexer) (folded : Bool) : Option Lexer := do
  let l ← l.dropMark
  let (text, c) ← blockScalar folded l.indent (l.cursor.skip 1)
  some ({ l with cursor := c, keyAllowed := true }.push
    (.scalar (if folded then .folded else .literal) (String.ofList text)))

def directiveToken (l : Lexer) : Option Lexer := do
  let l ← l.resetBlocks
  let (t, c) ← directive (l.cursor.skip 1)
  some ({ l with cursor := c }.push t)

def documentToken (l : Lexer) (t : Token) : Option Lexer := do
  let l ← l.resetBlocks
  some (l.push t |>.skip 3)

/-- The characters that start no plain scalar. -/
def isIndicator (c : Char) : Bool := "-?:,[]\x7b\x7d#&*!|>'\"%@`".toList.contains c

/-- The token at the cursor, which stands at a character. -/
def nextToken (l : Lexer) (ch : Char) : Option Lexer :=
  let c := l.cursor
  let flow := l.inFlow
  let blank := c.blankAhead 1
  if c.column == 0 && ch == '%' then l.directiveToken
  else if c.atDocumentMark '-' then l.documentToken .documentStart
  else if c.atDocumentMark '.' then l.documentToken .documentEnd
  else if ch == '[' then l.openFlow .flowSequenceStart
  else if ch == '\x7b' then l.openFlow .flowMappingStart
  else if ch == ']' then l.closeFlow .flowSequenceEnd
  else if ch == '\x7d' then l.closeFlow .flowMappingEnd
  else if ch == ',' then l.flowEntry
  else if ch == '-' && blank then l.blockIndicator .blockSequenceStart .blockEntry true
  else if ch == '?' && (flow || blank) then l.blockIndicator .blockMappingStart .key (!flow)
  else if ch == ':' && (flow || blank) then l.valueIndicator
  else if ch == '*' then
    l.keyToken fun c => (anchorName? (c.skip 1)).map fun (name, c) => (.alias name, c)
  else if ch == '&' then
    l.keyToken fun c => (anchorName? (c.skip 1)).map fun (name, c) => (.anchor name, c)
  else if ch == '!' then l.keyToken (tag? flow)
  else if ch == '|' && !flow then l.blockScalarToken false
  else if ch == '>' && !flow then l.blockScalarToken true
  else if ch == '\'' then l.quotedToken true
  else if ch == '"' then l.quotedToken false
  else if !isGapOrBreak ch && !isIndicator ch || ch == '-' && !(c.ahead? 1).any isGap ||
      !flow && (ch == '?' || ch == ':') && !blank then l.plainToken
  else none

/-- The end of the text: all blocks are closed, and no key may be missing. -/
def finish (l : Lexer) : Option (List Token) := do
  let c := l.cursor
  let cursor := if c.column == 0 then c else { c with column := 0, line := c.line + 1 }
  let l := { l with cursor := cursor }
  let l ← (l.closeBlocks (-1)).dropMark
  some (l.push .streamEnd).tokens.toList

/-- All tokens.  Every turn but the last passes at least one character. -/
def run : Nat → Lexer → Option (List Token)
  | 0, _ => none
  | fuel + 1, l => do
    let l ← (l.skipToToken (l.cursor.rest.length + 1)).dropStale
    let l := l.closeBlocks l.cursor.column
    match l.cursor.peek? with
    | none => l.finish
    | some ch => run fuel (← l.nextToken ch)

end Lexer

/-- The tokens of a text.  A byte order mark at its start is passed over. -/
def Token.scan (text : String) : Option (List Token) :=
  let cs := match text.toList with
    | '\uFEFF' :: rest => rest
    | cs => cs
  if cs.all isAllowed then (Lexer.start cs).run (cs.length + 1) else none

end Yaml
end SingleFlight
