import TypeAnnotation.Yaml.Token.Property

/-! # Reading tokens

The tokens of a text in order. Where a key begins is only known at the colon after it: the tokens
that say so are put in front of it then. So an error may come to light while earlier tokens still
wait for their meaning; it is reported when the first of those is asked for.
-/
namespace TypeAnnotation.Yaml

/-- The tokens of a text and, if it has an error, the number of tokens before it is noticed. -/
structure Scanned where
  tokens : List Token
  error : Option (Nat × Error)
deriving Repr

namespace Read

def keyExpected (mark : Mark) : Option (String × Mark) :=
  some ("while scanning a simple key", mark)

def colonMissing : String := "could not find expected ':'"

/-- Forget the tokens that can no longer begin a key: one that must is an error then. -/
def dropStaleKeys : Read Unit := do
  let r ← get
  let isStale : Nat × PossibleKey → Bool := fun (_, key) =>
    key.mark.line != r.mark.line || 1024 < r.index - key.index
  for (_, key) in r.possibleKeys.filter isStale do
    if key.required then fail (keyExpected key.mark) colonMissing
  set { r with possibleKeys := r.possibleKeys.filter (!isStale ·) }

def possibleKey? : Read (Option PossibleKey) := do
  let r ← get
  return r.possibleKeys.lookup r.flowLevel

def forgetKey : Read Unit :=
  modify fun r => { r with possibleKeys := r.possibleKeys.filter (·.1 != r.flowLevel) }

def dropKey : Read Unit := do
  match ← possibleKey? with
  | some key =>
    if key.required then fail (keyExpected key.mark) colonMissing
    forgetKey
  | none => return

def noteKey : Read Unit := do
  let r ← get
  if r.allowsKey then
    dropKey
    let required := r.flowLevel == 0 && r.indent == r.mark.column
    let key : PossibleKey := ⟨r.tokens.length, required, r.index, r.mark⟩
    modify fun r => { r with possibleKeys := r.possibleKeys ++ [(r.flowLevel, key)] }

def unindent (column : Int) : Read Unit := do
  let r ← get
  if r.flowLevel == 0 then
    let rec close : List Int → Reading → Reading
      | [], r => r
      | outer :: indents, r =>
        if column < r.indent then
          close indents { r with
            indent := outer, indents, tokens := r.tokens ++ [⟨.blockEnd, r.mark, r.mark⟩] }
        else r
    set (close r.indents r)

def indentTo (column : Nat) : Read Bool := do
  let r ← get
  if r.indent < column then
    set { r with indents := r.indent :: r.indents, indent := column }
    return true
  else return false

def inFlow : Read Bool := do return (← get).flowLevel != 0

def openBlock (content : Content) (refusal : String) : Read Unit := do
  if !(← get).allowsKey then fail none refusal
  let m ← mark
  if ← indentTo m.column then emit content m m

def skipGap : Read Unit := do
  if (← get).index == 0 && (← peek) == '\ufeff' then forward 1
  loop (fun (_ : Unit) => do
    let _ ← take (· == ' ')
    if (← peek) == '#' then
      let _ ← take fun c => !isBreakOrEnd c
    if (← lineBreak).isEmpty then return .inr ()
    if !(← inFlow) then setAllowsKey true
    return .inl ()) ()

def valueMark : Read Unit := do
  match ← possibleKey? with
  | some key =>
    forgetKey
    let opens ← if ← inFlow then pure false else indentTo key.mark.column
    insertAt key.number (if opens then [.blockMappingStart, .key] else [.key]) key.mark
    setAllowsKey false
  | none =>
    let flow ← inFlow
    if !flow then openBlock .blockMappingStart "mapping values are not allowed here"
    setAllowsKey (!flow)
    dropKey
  emitMark .value 1

def keyMark : Read Unit := do
  let flow ← inFlow
  if !flow then openBlock .blockMappingStart "mapping keys are not allowed here"
  setAllowsKey (!flow)
  dropKey
  emitMark .key 1

def entryMark : Read Unit := do
  if !(← inFlow) then openBlock .blockSequenceStart "sequence entries are not allowed here"
  setAllowsKey true
  dropKey
  emitMark .blockEntry 1

def flowStart (content : Content) : Read Unit := do
  noteKey
  modify fun r => { r with flowLevel := r.flowLevel + 1 }
  setAllowsKey true
  emitMark content 1

def flowStop (content : Content) : Read Unit := do
  dropKey
  modify fun r => { r with flowLevel := r.flowLevel - 1 }
  setAllowsKey false
  emitMark content 1

def outsideBlocks (rest : Read Unit) : Read Unit := do
  unindent (-1)
  dropKey
  setAllowsKey false
  rest

def node (rest : Read Unit) : Read Unit := do
  noteKey
  setAllowsKey false
  rest

def block (folded : Bool) : Read Unit := do
  setAllowsKey true
  dropKey
  blockScalar folded

def startsPlain (c next : Char) (flow : Bool) : Bool :=
  (!isGapOrEnd c && !("-?:,[]#&*!|>'\"%@\x7b\x7d\x60".toList.contains c)) ||
    (!isGapOrEnd next && (c == '-' || (!flow && (c == '?' || c == ':'))))

/-- The next token. Says whether it is the last. -/
def nextToken : Read Bool := do
  skipGap
  dropStaleKeys
  unindent (← mark).column
  let c ← peek
  let next ← peekAt 1
  let flow ← inFlow
  let atStart := (← mark).column == 0
  if c == '\x00' then
    outsideBlocks do
      modify fun r => { r with possibleKeys := [] }
      emitMark .streamEnd 0
    return true
  if c == '%' && atStart then outsideBlocks directive
  else if atStart && (← atDocumentMarker) then
    outsideBlocks (emitMark (if c == '-' then .documentStart else .documentEnd) 3)
  else if c == '[' then flowStart .flowSequenceStart
  else if c == '\x7b' then flowStart .flowMappingStart
  else if c == ']' then flowStop .flowSequenceEnd
  else if c == '\x7d' then flowStop .flowMappingEnd
  else if c == ',' then do
    setAllowsKey true
    dropKey
    emitMark .flowEntry 1
  else if c == '-' && isGapOrEnd next then entryMark
  else if c == '?' && (flow || isGapOrEnd next) then keyMark
  else if c == ':' && (flow || isGapOrEnd next) then valueMark
  else if c == '*' then node (reference "alias" .aliasOf)
  else if c == '&' then node (reference "anchor" .anchor)
  else if c == '!' then node tag
  else if c == '|' && !flow then block false
  else if c == '>' && !flow then block true
  else if c == '\x27' || c == '"' then node quotedScalar
  else if startsPlain c next flow then node plainScalar
  else
    fail (some ("while scanning for the next token", ← mark))
      ("found character " ++ Text.quote (String.singleton c) ++ " that cannot start any token")
  return false

end Read

/-- The number of tokens whose meaning is settled: those before the first that may begin a key. -/
def Reading.settled (r : Reading) : Nat :=
  r.possibleKeys.foldl (fun least (_, key) => Nat.min least key.number) r.tokens.length

/-- Read on to the end of the text. Every token but the last takes a character or ends a block. -/
def Reading.scan (settled : Nat) : Nat → Reading → Scanned
  | 0, r => ⟨r.tokens, none⟩
  | fuel + 1, r =>
    match StateT.run Read.dropStaleKeys r with
    | .error e => ⟨r.tokens, some (settled, e)⟩
    | .ok (_, r) =>
      match StateT.run Read.nextToken r with
      | .error e => ⟨r.tokens, some (r.settled, e)⟩
      | .ok (true, r') => ⟨r'.tokens, none⟩
      | .ok (false, r') => Reading.scan r.settled fuel r'

def Token.scan (text : List Char) : Scanned :=
  let r : Reading := { ahead := text, tokens := [⟨.streamStart, ⟨0, 0⟩, ⟨0, 0⟩⟩] }
  Reading.scan 1 (text.length + 2) r

end TypeAnnotation.Yaml
