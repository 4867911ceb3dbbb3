import TypeAnnotation.Text.Base64
import TypeAnnotation.Yaml.Node
import TypeAnnotation.Yaml.Value

/-! # Values of YAML nodes

The value that a graph of nodes stands for. The nodes are checked level by level, so that of two
errors the one nearer to the root is reported; then the graph is unfolded.
-/
namespace TypeAnnotation.Yaml

inductive NodeType
  | null
  | bool
  | int
  | float
  | binary
  | timestamp
  | orderedMap
  | pairs
  | set
  | str
  | seq
  | map
deriving DecidableEq, Repr

namespace NodeType

def named : List (String × NodeType) := [
  ("null", null), ("bool", bool), ("int", int), ("float", float), ("binary", binary),
  ("timestamp", timestamp), ("omap", orderedMap), ("pairs", pairs), ("set", set), ("str", str),
  ("seq", seq), ("map", map)]

def ofTag? (tag : String) : Option NodeType :=
  (named.find? fun (name, _) => standardTag name == tag).map (·.2)

def isCollection : NodeType → Bool
  | orderedMap | pairs | set | seq | map => true
  | _ => false

end NodeType

abbrev Graph := Array Node

namespace Graph

def node (g : Graph) (number : Nat) : Node := g[number]?.getD default

structure Checking where
  graph : Graph
  seen : List Nat := []
  pending : List Nat := []

abbrev Check := StateT Checking (Except Error)

def get (number : Nat) : Check Node := do return (← MonadState.get).graph.node number

def fail {α : Type} (context : Option (String × Mark)) (cause : String) (mark : Mark) :
    Check α :=
  throw (.problem context cause mark)

/-- The text of a scalar. A mapping may have one under the value key. -/
def scalarText : Nat → Nat → Check String
  | 0, _ => return ""
  | fuel + 1, number => do
    let n ← get number
    match n.body with
    | .scalar text => return text
    | .mapping entries =>
      let g := (← MonadState.get).graph
      match entries.find? fun (key, _) => (g.node key).tag == PlainType.tag .value with
      | some (_, value) => scalarText fuel value
      | none => fail none "expected a scalar node, but found mapping" n.mark
    | .sequence _ => fail none "expected a scalar node, but found sequence" n.mark

def escapeHigh (c : Char) : String :=
  let n := c.toNat
  if n ≤ 0xff then "\\x" ++ String.ofList (Text.hexDigits 2 n)
  else if n ≤ 0xffff then "\\u" ++ String.ofList (Text.hexDigits 4 n)
  else "\\U" ++ String.ofList (Text.hexDigits 8 n)

/-- Why a text spells no bytes, if it does not: it has characters above ASCII or is incomplete. -/
def binaryProblem? (text : String) : Option String :=
  let before := text.toList.takeWhile (·.toNat < 0x80)
  let first := before.length
  match (text.toList.drop first).takeWhile (0x80 ≤ ·.toNat) with
  | [] =>
    match Text.Base64.decode text.toList with
    | .ok _ => none
    | .error problem => some ("failed to decode base64 data: " ++ problem.message)
  | high =>
    let place := match high with
      | [c] => " '" ++ escapeHigh c ++ "' in position " ++ toString first
      | _ => "s in position " ++ toString first ++ "-" ++ toString (first + high.length - 1)
    some ("failed to convert base64 data into ascii: 'ascii' codec can't encode character" ++
      place ++ ": ordinal not in range(128)")

def readScalar (type : NodeType) (text : String) : Except Fault Value :=
  match type with
  | .null => .ok .null
  | .bool =>
    let word := Text.lower text
    if ["yes", "true", "on"].contains word then .ok (.bool true)
    else if ["no", "false", "off"].contains word then .ok (.bool false)
    else .error (.noTruthValue word)
  | .int => (Number.readInt text.toList).map .int
  | .float => (Number.readFloat text.toList).map .float
  | .binary =>
    match Text.Base64.decode text.toList with
    | .ok bytes => .ok (.bytes bytes)
    | .error _ => .ok (.bytes [])
  | .timestamp => (Timestamp.read text.toList).map .timestamp
  | _ => .ok (.string text)

/-- Check a node itself. The contents of a collection come later. -/
def checkNode (number : Nat) : Check Unit := do
  let n ← get number
  if (← MonadState.get).seen.contains number then return
  match NodeType.ofTag? n.tag with
  | none =>
    fail none ("could not determine a constructor for the tag " ++ Text.quote n.tag) n.mark
  | some type =>
    if type.isCollection then
      modify fun c => { c with pending := c.pending ++ [number] }
    else
      let text ← scalarText (← MonadState.get).graph.size number
      if type == .binary then
        if let some problem := binaryProblem? text then fail none problem n.mark
      if type == .timestamp && n.body.title ≠ "scalar" then throw (.faulty .notScalar)
      if let .error fault := readScalar type text then throw (.faulty fault)
    modify fun c => { c with seen := number :: c.seen }

def flatten : Nat → Nat → Check (List (Nat × Nat))
  | 0, _ => return []
  | fuel + 1, number => do
    let n ← get number
    let context := some ("while constructing a mapping", n.mark)
    let entries := match n.body with
      | .mapping entries => entries
      | _ => []
    let rec go : List (Nat × Nat) → Check (List (Nat × Nat) × List (Nat × Nat))
      | [] => return ([], [])
      | (key, value) :: rest => do
        let k ← get key
        if k.tag == PlainType.tag .merge then
          let v ← get value
          let merged ← match v.body with
            | .mapping _ => flatten fuel value
            | .sequence items => do
              let parts ← items.mapM fun item => do
                let part ← get item
                match part.body with
                | .mapping _ => flatten fuel item
                | body =>
                  fail context ("expected a mapping for merging, but found " ++ body.title)
                    part.mark
              pure parts.reverse.flatten
            | body =>
              fail context
                ("expected a mapping or list of mappings for merging, but found " ++ body.title)
                v.mark
          let (more, own) ← go rest
          return (merged ++ more, own)
        else
          if k.tag == PlainType.tag .value then
            modify fun c => { c with
              graph := c.graph.modify key ({ · with tag := PlainType.tag .str }) }
          let (more, own) ← go rest
          return (more, (key, value) :: own)
    let (merged, own) ← go entries
    let entries := merged ++ own
    modify fun c => { c with graph := c.graph.modify number ({ · with body := .mapping entries }) }
    return entries

def isKey (g : Graph) (number : Nat) : Bool :=
  match NodeType.ofTag? (g.node number).tag with
  | some type => !type.isCollection
  | none => false

def checkMapping (number : Nat) : Check Unit := do
  let n ← get number
  match n.body with
  | .mapping _ =>
    let size := (← MonadState.get).graph.size
    for (key, value) in ← flatten (size + 1) number do
      checkNode key
      if !isKey (← MonadState.get).graph key then
        fail (some ("while constructing a mapping", n.mark)) "found unhashable key"
          (← get key).mark
      checkNode value
  | body => fail none ("expected a mapping node, but found " ++ body.title) n.mark

def checkPairs (title : String) (number : Nat) : Check Unit := do
  let n ← get number
  let context := some ("while constructing " ++ title, n.mark)
  match n.body with
  | .sequence items =>
    for item in items do
      let part ← get item
      match part.body with
      | .mapping [(key, value)] =>
        checkNode key
        checkNode value
      | .mapping entries =>
        fail context ("expected a single mapping item, but found " ++ toString entries.length ++
          " items") part.mark
      | body => fail context ("expected a mapping of length 1, but found " ++ body.title) part.mark
  | body => fail context ("expected a sequence, but found " ++ body.title) n.mark

def checkContents (number : Nat) : Check Unit := do
  let n ← get number
  match NodeType.ofTag? n.tag with
  | some .orderedMap => checkPairs "an ordered map" number
  | some .pairs => checkPairs "pairs" number
  | some .set | some .map => checkMapping number
  | _ =>
    match n.body with
    | .sequence items =>
      for item in items do checkNode item
    | body => fail none ("expected a sequence node, but found " ++ body.title) n.mark

def checkLevels : Nat → Check Unit
  | 0 => return
  | fuel + 1 => do
    let level := (← MonadState.get).pending
    if level.isEmpty then return
    modify fun c => { c with pending := [] }
    for number in level do checkContents number
    checkLevels fuel

def textOf (g : Graph) : Nat → Nat → String
  | 0, _ => ""
  | fuel + 1, number =>
    match (g.node number).body with
    | .scalar text => text
    | .mapping entries =>
      match entries.find? fun (key, _) => (g.node key).tag == PlainType.tag .value with
      | some (_, value) => textOf g fuel value
      | none => ""
    | .sequence _ => ""

def entriesOf (entries : List (Value × Value)) : List (Value × Value) :=
  entries.foldl (fun found (key, value) => Value.insert key value found) []

def unfold (g : Graph) : Nat → List Nat → Nat → Value
  | 0, _, _ => .null
  | fuel + 1, path, number =>
    let n := g.node number
    let inner := unfold g fuel (number :: path)
    let pairsOf (entries : List (Nat × Nat)) := entries.map fun (k, v) => (inner k, inner v)
    let again := path.contains number
    match NodeType.ofTag? n.tag, n.body with
    | some .map, .mapping entries =>
      if again then .mappingAgain else .mapping (entriesOf (pairsOf entries))
    | some .set, .mapping entries =>
      if again then .mappingAgain else .set ((entriesOf (pairsOf entries)).map (·.1))
    | some .seq, .sequence items => if again then .listAgain else .list (items.map inner)
    | some .orderedMap, .sequence items | some .pairs, .sequence items =>
      if again then .listAgain
      else .list (items.map fun item =>
        match (g.node item).body with
        | .mapping [(k, v)] => .pair (inner k) (inner v)
        | _ => .null)
    | some type, _ => (readScalar type (textOf g g.size number)).toOption.getD .null
    | none, _ => .null

def value (g : Graph) (root : Nat) : Value :=
  let inner := unfold g (g.size + 1) []
  match NodeType.ofTag? (g.node root).tag, (g.node root).body with
  | some .map, .mapping entries =>
    .mapping (entriesOf (entries.map fun (k, v) => (inner k, inner v)))
  | some .seq, .sequence items => .list (items.map inner)
  | _, _ => inner root

end Graph

def isYamlChar (c : Char) : Bool :=
  let n := c.toNat
  n == 9 || n == 10 || n == 13 || (0x20 ≤ n && n ≤ 0x7e) || n == 0x85 ||
    (0xa0 ≤ n && n ≤ 0xfffd) || 0x10000 ≤ n

def unifyLines : List Char → List Char
  | '\r' :: '\n' :: rest => '\n' :: unifyLines rest
  | '\r' :: rest => '\n' :: unifyLines rest
  | c :: rest => c :: unifyLines rest
  | [] => []

def Value.ofText (text : String) : Except Error Value := do
  let text := unifyLines text.toList
  match text.findIdx? (!isYamlChar ·) with
  | some place => throw (.unprintable ((text.drop place).headD ' ') place)
  | none => pure ()
  let (nodes, root) ← Node.ofText text
  match root with
  | none => return .null
  | some root =>
    let check : Graph.Check Unit := do
      Graph.checkNode root
      Graph.checkLevels (nodes.size + 1)
    let (_, checked) ← check.run { graph := nodes }
    return Graph.value checked.graph root

end TypeAnnotation.Yaml
