import TypeAnnotation.Yaml.Plain
import TypeAnnotation.Yaml.Token.Scan

/-! # YAML nodes

The graph that a document describes. Nodes are numbered as they begin; an alias is the number of
the node that has its anchor, which may stand around it.
-/
namespace TypeAnnotation.Yaml

inductive Body
  | scalar (text : String)
  | sequence (items : List Nat)
  | mapping (entries : List (Nat × Nat))
deriving DecidableEq, Repr, Inhabited

def Body.title : Body → String
  | scalar _ => "scalar"
  | sequence _ => "sequence"
  | mapping _ => "mapping"

structure Node where
  tag : String
  body : Body
  mark : Mark
deriving DecidableEq, Repr, Inhabited

def defaultHandles : List (String × String) := [("!", "!"), ("!!", standardTag "")]

structure Composing where
  ahead : List Token
  taken : Nat := 0
  error : Option (Nat × Error)
  nodes : Array Node := #[]
  anchors : List (String × Nat) := []
  handles : List (String × String) := defaultHandles
deriving Repr

abbrev Compose := StateT Composing (Except Error)

namespace Compose

/-- The next token. An error among the tokens is noticed here. -/
def peek : Compose Token := do
  let c ← get
  match c.error with
  | some (settled, e) => if settled ≤ c.taken then throw e
  | none => pure ()
  return c.ahead.headD default

def content : Compose Content := do return (← peek).content

def advance : Compose Token := do
  let token ← peek
  modify fun c => { c with ahead := c.ahead.tail, taken := c.taken + 1 }
  return token

def fail {α : Type} (context : Option (String × Mark)) (cause : String) (mark : Mark) :
    Compose α :=
  throw (.problem context cause mark)

def failFound {α : Type} (context : Option (String × Mark)) (wanted : String) : Compose α := do
  let token ← peek
  fail context (wanted ++ Text.quote token.content.title) token.start

def add (anchor : Option String) (node : Node) : Compose Nat := do
  let c ← get
  let number := c.nodes.size
  let anchors := match anchor with
    | some name => (name, number) :: c.anchors
    | none => c.anchors
  set { c with nodes := c.nodes.push node, anchors }
  return number

def fill (number : Nat) (body : Body) : Compose Nat := do
  modify fun c => { c with nodes := c.nodes.modify number ({ · with body }) }
  return number

def empty (mark : Mark) : Compose Nat := add none ⟨PlainType.tag .null, .scalar "", mark⟩

def newAnchor (anchor : Option String) (mark : Mark) : Compose Unit := do
  let c ← get
  match anchor with
  | none => return
  | some name =>
    match c.anchors.lookup name with
    | none => return
    | some first =>
      let place := (c.nodes[first]?.getD default).mark
      fail (some ("found duplicate anchor " ++ Text.quote name ++ "; first occurrence", place))
        "second occurrence" mark

structure Properties where
  anchor : Option String := none
  tag : Option (Option String × String × Mark) := none
  start : Option Mark := none

def properties : Compose Properties := do
  let first ← peek
  match first.content with
  | .anchor name =>
    let _ ← advance
    let second ← peek
    match second.content with
    | .tag owner suffix =>
      let _ ← advance
      return ⟨some name, some (owner, suffix, second.start), some first.start⟩
    | _ => return ⟨some name, none, some first.start⟩
  | .tag owner suffix =>
    let _ ← advance
    let second ← peek
    match second.content with
    | .anchor name =>
      let _ ← advance
      return ⟨some name, some (owner, suffix, first.start), some first.start⟩
    | _ => return ⟨none, some (owner, suffix, first.start), some first.start⟩
  | _ => return {}

def spelledTag (p : Properties) : Compose (Option String) := do
  match p.tag with
  | none => return none
  | some (none, suffix, _) => return some suffix
  | some (some owner, suffix, mark) =>
    match (← get).handles.lookup owner with
    | some expansion => return some (expansion ++ suffix)
    | none =>
      fail (some ("while parsing a node", p.start.getD mark))
        ("found undefined tag handle " ++ Text.quote owner) mark

def collectionTag (name : String) (tag : Option String) : String :=
  match tag with
  | none | some "!" => standardTag name
  | some tag => tag

/-- The tag of a scalar. Without a tag, or with the bare one, it depends on the text. -/
def scalarTag (text : String) (plain : Bool) : Option String → String
  | none => if plain then (Plain.typeOf text).tag else PlainType.tag .str
  | some "!" => (Plain.typeOf text).tag
  | some tag => tag

mutual

/-- A node. Blocks may stand where `block` says so, and entries without indentation where
`indentless` does. -/
def node (block indentless : Bool) : Nat → Compose Nat
  | 0 => return 0
  | fuel + 1 => do
    let token ← peek
    if let .aliasOf name := token.content then
      let _ ← advance
      match (← get).anchors.lookup name with
      | some number => return number
      | none => fail none ("found undefined alias " ++ Text.quote name) token.start
    else
      let p ← properties
      let tag ← spelledTag p
      let token ← peek
      let start := p.start.getD token.start
      let sequence : Compose Nat := add p.anchor ⟨collectionTag "seq" tag, .sequence [], start⟩
      let mapping : Compose Nat := add p.anchor ⟨collectionTag "map" tag, .mapping [], start⟩
      match token.content, block, indentless with
      | .blockEntry, _, true =>
        newAnchor p.anchor start
        let number ← sequence
        fill number (.sequence (← indentlessEntries fuel))
      | .scalar text plain, _, _ =>
        let _ ← advance
        newAnchor p.anchor start
        add p.anchor ⟨scalarTag text plain tag, .scalar text, start⟩
      | .flowSequenceStart, _, _ =>
        newAnchor p.anchor start
        let number ← sequence
        let opening ← advance
        fill number (.sequence (← flowItems opening.start true fuel))
      | .flowMappingStart, _, _ =>
        newAnchor p.anchor start
        let number ← mapping
        let opening ← advance
        fill number (.mapping (← flowEntries opening.start true fuel))
      | .blockSequenceStart, true, _ =>
        newAnchor p.anchor start
        let number ← sequence
        let opening ← advance
        fill number (.sequence (← blockEntries opening.start fuel))
      | .blockMappingStart, true, _ =>
        newAnchor p.anchor start
        let number ← mapping
        let opening ← advance
        fill number (.mapping (← blockPairs opening.start fuel))
      | _, _, _ =>
        if p.anchor.isSome || tag.isSome then
          newAnchor p.anchor start
          add p.anchor ⟨scalarTag "" tag.isNone tag, .scalar "", start⟩
        else
          failFound
            (some ("while parsing a " ++ (if block then "block" else "flow") ++ " node", start))
            "expected the node content, but found "

def nodeUnless (omitted : Content → Bool) (mark : Mark) (block indentless : Bool) :
    Nat → Compose Nat
  | 0 => return 0
  | fuel + 1 => do if omitted (← content) then empty mark else node block indentless fuel

def blockEntries (start : Mark) : Nat → Compose (List Nat)
  | 0 => return []
  | fuel + 1 => do
    match ← content with
    | .blockEntry =>
      let dash ← advance
      let omitted : Content → Bool := fun c => c == .blockEntry || c == .blockEnd
      let item ← nodeUnless omitted dash.stop true false fuel
      return item :: (← blockEntries start fuel)
    | .blockEnd =>
      let _ ← advance
      return []
    | _ =>
      failFound (some ("while parsing a block collection", start))
        "expected <block end>, but found "

def indentlessEntries : Nat → Compose (List Nat)
  | 0 => return []
  | fuel + 1 => do
    match ← content with
    | .blockEntry =>
      let dash ← advance
      let item ← nodeUnless
        (fun c => c == .blockEntry || c == .key || c == .value || c == .blockEnd)
        dash.stop true false fuel
      return item :: (← indentlessEntries fuel)
    | _ => return []

def blockPairs (start : Mark) : Nat → Compose (List (Nat × Nat))
  | 0 => return []
  | fuel + 1 => do
    let omitted : Content → Bool := fun c => c == .key || c == .value || c == .blockEnd
    match ← content with
    | .blockEnd =>
      let _ ← advance
      return []
    | .key =>
      let mark := (← advance).stop
      let key ← nodeUnless omitted mark true true fuel
      let value ← blockValue omitted fuel
      return (key, value) :: (← blockPairs start fuel)
    | .value =>
      failFound (some ("while parsing a block mapping", start)) "expected <block end>, but found "
    | _ =>
      failFound (some ("while parsing a block mapping", start)) "expected <block end>, but found "

def blockValue (omitted : Content → Bool) : Nat → Compose Nat
  | 0 => return 0
  | fuel + 1 => do
    match ← content with
    | .value =>
      let mark := (← advance).stop
      nodeUnless omitted mark true true fuel
    | _ => empty (← peek).start

/-- The items of a sequence in brackets. An item may be a single pair. -/
def flowItems (start : Mark) (first : Bool) : Nat → Compose (List Nat)
  | 0 => return []
  | fuel + 1 => do
    if (← content) == .flowSequenceEnd then
      let _ ← advance
      return []
    if !first then
      if (← content) == .flowEntry then
        let _ ← advance
      else
        failFound (some ("while parsing a flow sequence", start)) "expected ',' or ']', but got "
    let omitted : Content → Bool := fun c => c == .flowEntry || c == .flowSequenceEnd
    let token ← peek
    match token.content with
    | .flowSequenceEnd =>
      let _ ← advance
      return []
    | .key =>
      let number ← add none ⟨collectionTag "map" none, .mapping [], token.start⟩
      let mark := (← advance).stop
      let key ← nodeUnless (fun c => c == .value || omitted c) mark false false fuel
      let value ← flowValue omitted fuel
      let number ← fill number (.mapping [(key, value)])
      return number :: (← flowItems start false fuel)
    | _ =>
      let item ← node false false fuel
      return item :: (← flowItems start false fuel)

def flowValue (omitted : Content → Bool) : Nat → Compose Nat
  | 0 => return 0
  | fuel + 1 => do
    match ← content with
    | .value =>
      let mark := (← advance).stop
      nodeUnless omitted mark false false fuel
    | _ => empty (← peek).start

def flowEntries (start : Mark) (first : Bool) : Nat → Compose (List (Nat × Nat))
  | 0 => return []
  | fuel + 1 => do
    if (← content) == .flowMappingEnd then
      let _ ← advance
      return []
    if !first then
      if (← content) == .flowEntry then
        let _ ← advance
      else
        failFound (some ("while parsing a flow mapping", start)) "expected ',' or '\x7d', but got "
    let omitted : Content → Bool := fun c => c == .flowEntry || c == .flowMappingEnd
    match ← content with
    | .flowMappingEnd =>
      let _ ← advance
      return []
    | .key =>
      let mark := (← advance).stop
      let key ← nodeUnless (fun c => c == .value || omitted c) mark false false fuel
      let value ← flowValue omitted fuel
      return (key, value) :: (← flowEntries start false fuel)
    | _ =>
      let key ← node false false fuel
      let value ← empty (← peek).start
      return (key, value) :: (← flowEntries start false fuel)

end

def directives (versioned : Bool) : Nat → Compose Unit
  | 0 => return
  | fuel + 1 => do
    let token ← peek
    match token.content with
    | .version major _ =>
      let _ ← advance
      if versioned then fail none "found duplicate YAML directive" token.start
      if major != 1 then
        fail none "found incompatible YAML document (version 1.* is required)" token.start
      directives true fuel
    | .tagHandle owner expansion =>
      let _ ← advance
      if ((← get).handles.lookup owner).isSome then
        fail none ("duplicate tag handle " ++ Text.quote owner) token.start
      modify fun c => { c with handles := c.handles ++ [(owner, expansion)] }
      directives versioned fuel
    | .reserved _ =>
      let _ ← advance
      directives versioned fuel
    | _ => modify fun c => { c with handles := c.handles ++ defaultHandles }

def documentStart (fuel : Nat) : Compose Unit := do
  modify fun c => { c with handles := [] }
  directives false fuel
  match ← content with
  | .documentStart =>
    let _ ← advance
  | _ => failFound none "expected '<document start>', but found "

def skipDocumentEnds : Nat → Compose Unit
  | 0 => return
  | fuel + 1 => do
    if (← content) == .documentEnd then
      let _ ← advance
      skipDocumentEnds fuel

def isDirective : Content → Bool
  | .version .. | .tagHandle .. | .reserved _ => true
  | _ => false

def document (fuel : Nat) : Compose (Option Nat) := do
  let _ ← advance
  let first ← content
  if first == .streamEnd then return none
  let root ←
    if isDirective first || first == .documentStart then do
      documentStart fuel
      let c ← content
      if isDirective c || c == .documentStart || c == .documentEnd || c == .streamEnd then
        empty (← peek).start
      else node true false fuel
    else node true false fuel
  skipDocumentEnds fuel
  let next ← peek
  if next.content == .streamEnd then return some root
  documentStart fuel
  let place := ((← get).nodes[root]?.getD default).mark
  fail (some ("expected a single document in the stream", place)) "but found another document"
    next.start

end Compose

def Node.ofText (text : List Char) : Except Error (Array Node × Option Nat) := do
  let scanned := Token.scan text
  let composing : Composing := { ahead := scanned.tokens, error := scanned.error }
  let (root, composed) ← (Compose.document (4 * scanned.tokens.length + 16)).run composing
  return (composed.nodes, root)

end TypeAnnotation.Yaml
