import SingleFlight.Yaml.Token

/-!
YAML documents as trees of nodes.

An alias is a leaf that names an earlier node by number; the document holds the nodes that were
given an anchor.  A node is numbered where it starts, so an alias may lie within the node that it
names.
-/

namespace SingleFlight
namespace Yaml

inductive Node where
  | scalar (tag : Option String) (style : Style) (text : String)
  | sequence (tag : Option String) (items : List Node)
  | mapping (tag : Option String) (pairs : List (Node × Node))
  | alias (index : Nat)

structure Document where
  root : Node
  /-- The nodes with an anchor, by number. -/
  anchored : List (Nat × Node)

namespace Document

/-- The node that an alias names; any other node is itself. -/
def resolve? (d : Document) : Node → Option Node
  | .alias index => d.anchored.lookup index
  | node => some node

end Document

/-! ## From tokens to nodes -/

structure Parser where
  tokens : List Token
  /-- What the handles of tags stand for. -/
  handles : List (String × String)
  /-- The numbers of the anchors, the latest first. -/
  anchors : List (String × Nat)
  anchored : List (Nat × Node)

namespace Parser

def peek (p : Parser) : Token := p.tokens.headD .streamEnd

def skip (p : Parser) : Parser := { p with tokens := p.tokens.tail }

def isAt (p : Parser) (ts : List Token) : Bool := ts.contains p.peek

/-- A scalar that is left out. -/
def blank : Node := .scalar none .plain ""

/-- The anchor and the tag before a node, in any order. -/
structure Properties where
  anchor : Option String
  tag : Option (String × String)

def properties (p : Parser) : Properties × Parser :=
  match p.peek with
  | .anchor name =>
    let p := p.skip
    match p.peek with
    | .tag handle rest => ({ anchor := some name, tag := some (handle, rest) }, p.skip)
    | _ => ({ anchor := some name, tag := none }, p)
  | .tag handle rest =>
    let p := p.skip
    match p.peek with
    | .anchor name => ({ anchor := some name, tag := some (handle, rest) }, p.skip)
    | _ => ({ anchor := none, tag := some (handle, rest) }, p)
  | _ => ({ anchor := none, tag := none }, p)

/-- A tag with its handle replaced. -/
def wholeTag? (p : Parser) : Option (String × String) → Option (Option String)
  | none => some none
  | some (handle, rest) =>
    if handle.isEmpty then some (some rest)
    else (p.handles.lookup handle).map fun meaning => some (meaning ++ rest)

mutual

/-- A node.  `block` says whether it may be a block collection, and `indentless` whether it may be a
sequence whose entries are not indented. -/
def node (block indentless : Bool) : Nat → Parser → Option (Node × Parser)
  | 0, _ => none
  | fuel + 1, p =>
    match p.peek with
    | .alias name => (p.anchors.lookup name).map fun index => (.alias index, p.skip)
    | _ => do
      let (found, p) := p.properties
      let tag ← p.wholeTag? found.tag
      let index := p.anchors.length
      let p := match found.anchor with
        | some name => { p with anchors := (name, index) :: p.anchors }
        | none => p
      let (n, p) ← content block indentless tag (found.anchor.isSome || found.tag.isSome) fuel p
      some (n, if found.anchor.isSome then { p with anchored := (index, n) :: p.anchored } else p)

/-- What stands after the properties of a node. -/
def content (block indentless : Bool) (tag : Option String) (hasProperties : Bool) :
    Nat → Parser → Option (Node × Parser)
  | 0, _ => none
  | fuel + 1, p =>
    match p.peek with
    | .blockEntry =>
      if indentless then (indentlessItems fuel p).map fun (items, p) => (.sequence tag items, p)
      else if hasProperties then some (.scalar tag .plain "", p)
      else none
    | .scalar style text => some (.scalar tag style text, p.skip)
    | .flowSequenceStart =>
      (flowItems true fuel p.skip).map fun (items, p) => (.sequence tag items, p)
    | .flowMappingStart =>
      (flowPairs true fuel p.skip).map fun (pairs, p) => (.mapping tag pairs, p)
    | .blockSequenceStart =>
      if block then (blockItems fuel p.skip).map fun (items, p) => (.sequence tag items, p)
      else if hasProperties then some (.scalar tag .plain "", p)
      else none
    | .blockMappingStart =>
      if block then (blockPairs fuel p.skip).map fun (pairs, p) => (.mapping tag pairs, p)
      else if hasProperties then some (.scalar tag .plain "", p)
      else none
    | _ => if hasProperties then some (.scalar tag .plain "", p) else none

/-- A node, or a scalar that is left out where one of these tokens follows. -/
def nodeUnless (stops : List Token) (block indentless : Bool) :
    Nat → Parser → Option (Node × Parser)
  | 0, _ => none
  | fuel + 1, p => if p.isAt stops then some (blank, p) else node block indentless fuel p

def blockItems : Nat → Parser → Option (List Node × Parser)
  | 0, _ => none
  | fuel + 1, p =>
    match p.peek with
    | .blockEntry =>
      match nodeUnless [.blockEntry, .blockEnd] true false fuel p.skip with
      | some (item, p) => (blockItems fuel p).map fun (items, p) => (item :: items, p)
      | none => none
    | .blockEnd => some ([], p.skip)
    | _ => none

def indentlessItems : Nat → Parser → Option (List Node × Parser)
  | 0, _ => none
  | fuel + 1, p =>
    match p.peek with
    | .blockEntry =>
      match nodeUnless [.blockEntry, .key, .value, .blockEnd] true false fuel p.skip with
      | some (item, p) => (indentlessItems fuel p).map fun (items, p) => (item :: items, p)
      | none => none
    | _ => some ([], p)

def blockPairs : Nat → Parser → Option (List (Node × Node) × Parser)
  | 0, _ => none
  | fuel + 1, p =>
    match p.peek with
    | .key =>
      match nodeUnless [.key, .value, .blockEnd] true true fuel p.skip with
      | some (k, p) =>
        let found := match p.peek with
          | .value => nodeUnless [.key, .value, .blockEnd] true true fuel p.skip
          | _ => some (blank, p)
        match found with
        | some (v, p) => (blockPairs fuel p).map fun (pairs, p) => ((k, v) :: pairs, p)
        | none => none
      | none => none
    | .blockEnd => some ([], p.skip)
    | _ => none

/-- The items of a flow sequence.  A pair with a key sign is a mapping of its own; where its key is
left out, the token that shows this is passed over. -/
def flowItems (first : Bool) : Nat → Parser → Option (List Node × Parser)
  | 0, _ => none
  | fuel + 1, p =>
    if p.peek = .flowSequenceEnd then some ([], p.skip)
    else
      let entry := if first then some p else if p.peek = .flowEntry then some p.skip else none
      match entry with
      | none => none
      | some p =>
        match p.peek with
        | .flowSequenceEnd => some ([], p.skip)
        | .key =>
          let p := p.skip
          let key :=
            if p.isAt [.value, .flowEntry, .flowSequenceEnd] then some (blank, p.skip)
            else node false false fuel p
          match key with
          | none => none
          | some (k, p) =>
            let value := match p.peek with
              | .value => nodeUnless [.flowEntry, .flowSequenceEnd] false false fuel p.skip
              | _ => some (blank, p)
            match value with
            | none => none
            | some (v, p) =>
              (flowItems false fuel p).map fun (items, p) => (.mapping none [(k, v)] :: items, p)
        | _ =>
          match node false false fuel p with
          | some (item, p) => (flowItems false fuel p).map fun (items, p) => (item :: items, p)
          | none => none

def flowPairs (first : Bool) : Nat → Parser → Option (List (Node × Node) × Parser)
  | 0, _ => none
  | fuel + 1, p =>
    if p.peek = .flowMappingEnd then some ([], p.skip)
    else
      let entry := if first then some p else if p.peek = .flowEntry then some p.skip else none
      match entry with
      | none => none
      | some p =>
        match p.peek with
        | .flowMappingEnd => some ([], p.skip)
        | .key =>
          match nodeUnless [.value, .flowEntry, .flowMappingEnd] false false fuel p.skip with
          | none => none
          | some (k, p) =>
            let value := match p.peek with
              | .value => nodeUnless [.flowEntry, .flowMappingEnd] false false fuel p.skip
              | _ => some (blank, p)
            match value with
            | none => none
            | some (v, p) => (flowPairs false fuel p).map fun (pairs, p) => ((k, v) :: pairs, p)
        | _ =>
          match node false false fuel p with
          | some (k, p) => (flowPairs false fuel p).map fun (pairs, p) => ((k, blank) :: pairs, p)
          | none => none

end

/-- What handles stand for unless a directive says otherwise. -/
def standardHandles : List (String × String) := [("!", "!"), ("!!", "tag:yaml.org,2002:")]

/-- The directives of a document: at most one version, which is 1.1 or 1.2, and each handle only
once. -/
def directives : List Token → Bool → List (String × String) →
    Option (List (String × String) × List Token)
  | .version major minor :: rest, versioned, handles =>
    if versioned || major != 1 || minor != 1 && minor != 2 then none
    else directives rest true handles
  | .handle name meaning :: rest, versioned, handles =>
    if (handles.lookup name).isSome then none
    else directives rest versioned ((name, meaning) :: handles)
  | rest, _, handles => some (handles, rest)

/-- The only document of a text; there is none in a text without content.  More than one document
is an error. -/
def document (tokens : List Token) : Option (Option Document) := do
  let fuel := 4 * tokens.length + 8
  let explicit := match tokens.head? with
    | some (.version _ _) => true
    | some (.handle _ _) => true
    | some .documentStart => true
    | _ => false
  if tokens.head? = some .streamEnd then some none
  else
    let (handles, rest) ← directives tokens false []
    let rest ←
      if explicit then
        match rest with
        | .documentStart :: rest => some rest
        | _ => none
      else some rest
    let p : Parser :=
      { tokens := rest, handles := handles ++ standardHandles, anchors := [], anchored := [] }
    let hasContent := !explicit ||
      !(match p.peek with
        | .version _ _ => true
        | .handle _ _ => true
        | .documentStart => true
        | .documentEnd => true
        | .streamEnd => true
        | _ => false)
    let (root, p) ← if hasContent then node true false fuel p else some (blank, p)
    let left := p.tokens.dropWhile (· = .documentEnd)
    if left = [.streamEnd] then some (some { root := root, anchored := p.anchored }) else none

end Parser

/-- Read a text that holds at most one document. -/
def Document.read (text : String) : Option (Option Document) :=
  (Token.scan text).bind Parser.document

end Yaml
end SingleFlight
