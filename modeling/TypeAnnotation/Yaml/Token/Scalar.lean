import TypeAnnotation.Yaml.Reading

/-! # Reading scalars

Scalars in quotes, block scalars and plain scalars. Line breaks inside a scalar fold: a single one
becomes a space, and of several the first is dropped.
-/
namespace TypeAnnotation.Yaml.Read

def isHexDigit (c : Char) : Bool :=
  c.isDigit || ('a' ≤ c && c ≤ 'f') || ('A' ≤ c && c ≤ 'F')

def hexValue (digits : List Char) : Nat :=
  digits.foldl (fun n c => 16 * n +
    if c.isDigit then c.toNat - '0'.toNat else c.toLower.toNat - 'a'.toNat + 10) 0

def restOfLine (context : String × Mark) : Read Unit := do
  let _ ← take (· == ' ')
  if (← peek) == '#' then
    let _ ← take fun c => !isBreakOrEnd c
  let c ← peek
  if !isBreakOrEnd c then failFound context "expected a comment or a line break" c
  let _ ← lineBreak

def atDocumentMarker : Read Bool := do
  return ((← startsWith "---") || (← startsWith "...")) && isGapOrEnd (← peekAt 3)

def escape? : Char → Option Char
  | '0' => some '\x00'
  | 'a' => some '\x07'
  | 'b' => some '\x08'
  | 't' | '\t' => some '\t'
  | 'n' => some '\n'
  | 'v' => some '\x0b'
  | 'f' => some '\x0c'
  | 'r' => some '\r'
  | 'e' => some '\x1b'
  | ' ' => some ' '
  | '"' => some '"'
  | '\\' => some '\\'
  | '/' => some '/'
  | 'N' => some '\u0085'
  | '_' => some '\u00a0'
  | 'L' => some '\u2028'
  | 'P' => some '\u2029'
  | _ => none

def escapeWidth? : Char → Option Nat
  | 'x' => some 2
  | 'u' => some 4
  | 'U' => some 8
  | _ => none

def quotedBreaks (start : Mark) : Read (List Char) :=
  loop (fun found => do
    if ← atDocumentMarker then
      fail (some ("while scanning a quoted scalar", start)) "found unexpected document separator"
    let _ ← take fun c => c == ' ' || c == '\t'
    match ← lineBreak with
    | [] => return .inr found
    | more => return .inl (found ++ more)) []

def escapeSequence (start : Mark) : Read (List Char) := do
  let context := ("while scanning a double-quoted scalar", start)
  forward 1
  let c ← peek
  match escape? c, escapeWidth? c with
  | some meant, _ =>
    forward 1
    return [meant]
  | none, some width =>
    forward 1
    let digits := ((← run isHexDigit).take width)
    if digits.length < width then
      failFound context
        ("expected escape sequence of " ++ toString width ++ " hexadecimal numbers")
        (← peekAt digits.length)
    let code := hexValue digits
    if 0x10ffff < code then throw (.faulty (.noCharacter code))
    forward width
    return [Char.ofNat code]
  | none, none =>
    if isBreak c then
      let _ ← lineBreak
      quotedBreaks start
    else
      fail (some context) ("found unknown escape character " ++ Text.quote (String.singleton c))

def quotedText (double : Bool) (start : Mark) : Read (List Char) :=
  loop (fun found => do
    let text ← take fun c => !(c == '\x27' || c == '"' || c == '\\' || isGapOrEnd c)
    let found := found ++ text
    let c ← peek
    if !double && c == '\x27' && (← peekAt 1) == '\x27' then
      forward 2
      return .inl (found ++ [c])
    else if (double && c == '\x27') || (!double && (c == '"' || c == '\\')) then
      forward 1
      return .inl (found ++ [c])
    else if double && c == '\\' then
      return .inl (found ++ (← escapeSequence start))
    else return .inr found) []

def quotedSpaces (start : Mark) : Read (List Char) := do
  let blanks ← take fun c => c == ' ' || c == '\t'
  let c ← peek
  if c == '\x00' then
    fail (some ("while scanning a quoted scalar", start)) "found unexpected end of stream"
  else if isBreak c then
    let first ← lineBreak
    let rest ← quotedBreaks start
    if first != ['\n'] then return first ++ rest
    else if rest.isEmpty then return [' ']
    else return rest
  else return blanks

def quotedScalar : Read Unit := do
  let start ← mark
  let quote ← peek
  let double := quote == '"'
  forward 1
  let first ← quotedText double start
  let text ← loop (fun found => do
    if (← peek) == quote then return .inr found
    let spaces ← quotedSpaces start
    return .inl (found ++ spaces ++ (← quotedText double start))) first
  forward 1
  emit (.scalar (String.ofList text) false) start (← mark)

inductive Chomping
  | strip
  | clip
  | keep
deriving DecidableEq, Repr

def chomping? : Read (Option Chomping) := do
  match ← peek with
  | '+' =>
    forward 1
    return some .keep
  | '-' =>
    forward 1
    return some .strip
  | _ => return none

def increment? (context : String × Mark) : Read (Option Nat) := do
  let c ← peek
  if !c.isDigit then return none
  if c == '0' then
    fail (some context) "expected indentation indicator in the range 1-9, but found 0"
  forward 1
  return some (c.toNat - '0'.toNat)

def blockHeader (context : String × Mark) : Read (Chomping × Option Nat) := do
  let early ← chomping?
  let increment ← increment? context
  let late ← if early.isNone && increment.isSome then chomping? else pure none
  let c ← peek
  if !isSpaceOrEnd c then
    failFound context "expected chomping or indentation indicators" c
  return ((early <|> late).getD .clip, increment)

def blockIndentation : Read (List Char × Nat) :=
  loop (fun (found, deepest) => do
    let c ← peek
    if c == ' ' then
      forward 1
      return .inl (found, Nat.max deepest (← mark).column)
    else if isBreak c then return .inl (found ++ (← lineBreak), deepest)
    else return .inr (found, deepest)) ([], 0)

def skipIndent (indent : Nat) : Read Unit := do
  let spaces ← run (· == ' ')
  forward (Nat.min spaces.length (indent - (← mark).column))

def blockBreaks (indent : Nat) : Read (List Char) := do
  skipIndent indent
  loop (fun found => do
    match ← lineBreak with
    | [] => return .inr found
    | more =>
      skipIndent indent
      return .inl (found ++ more)) []

def blockScalar (folded : Bool) : Read Unit := do
  let start ← mark
  let context := ("while scanning a block scalar", start)
  forward 1
  let (chomping, increment) ← blockHeader context
  restOfLine context
  let least := Int.toNat (max ((← get).indent + 1) 1)
  let (indent, breaks) ← match increment with
    | none => do
      let (breaks, deepest) ← blockIndentation
      pure (Nat.max least deepest, breaks)
    | some increment => do
      let indent := least + increment - 1
      pure (indent, ← blockBreaks indent)
  let inside : Read Bool := do return (← mark).column == indent && (← peek) != '\x00'
  let (text, lastBreak, breaks) ← loop (fun (text, lastBreak, breaks) => do
    if !(← inside) then return .inr (text, lastBreak, breaks)
    let c ← peek
    let startsDeeper := c == ' ' || c == '\t'
    let line ← take fun c => !isBreakOrEnd c
    let text := text ++ breaks ++ line
    let lastBreak ← lineBreak
    let breaks ← blockBreaks indent
    if !(← inside) then return .inr (text, lastBreak, breaks)
    let next ← peek
    if folded && lastBreak == ['\n'] && !startsDeeper && next != ' ' && next != '\t' then
      return .inl (if breaks.isEmpty then text ++ [' '] else text, [], breaks)
    else return .inl (text ++ lastBreak, [], breaks)) (([] : List Char), ([] : List Char), breaks)
  let text := match chomping with
    | .strip => text
    | .clip => text ++ lastBreak
    | .keep => text ++ lastBreak ++ breaks
  emit (.scalar (String.ofList text) false) start (← mark)

def endsPlain (c next : Char) (inFlow : Bool) : Bool :=
  isGapOrEnd c ||
    (c == ':' && (isGapOrEnd next || (inFlow && [',', '[', ']', '\x7b', '\x7d'].contains next))) ||
    (inFlow && [',', '?', '[', ']', '\x7b', '\x7d'].contains c)

def plainPiece (inFlow : Bool) : List Char → List Char
  | [] => []
  | c :: rest => if endsPlain c (rest.headD '\x00') inFlow then [] else c :: plainPiece inFlow rest

def plainGap : Read (List Char) := do
  let spaces ← take (· == ' ')
  if !isBreak (← peek) then return spaces
  let first ← lineBreak
  setAllowsKey true
  if ← atDocumentMarker then return []
  let rest ← loop (fun found => do
    if (← peek) == ' ' then
      forward 1
      return .inl found
    match ← lineBreak with
    | [] => return .inr (some found)
    | more => if ← atDocumentMarker then return .inr none else return .inl (found ++ more)) []
  match rest with
  | none => return []
  | some rest =>
    if first != ['\n'] then return first ++ rest
    else if rest.isEmpty then return [' ']
    else return rest

/-- A plain scalar. It may go on over lines that are indented deeper than the block it is in. -/
def plainScalar : Read Unit := do
  let start ← mark
  let indent := (← get).indent + 1
  let inFlow := (← get).flowLevel != 0
  let (text, stop) ← loop (fun (text, gap, stop) => do
    if (← peek) == '#' then return .inr (text, stop)
    let piece := plainPiece inFlow (← get).ahead
    if piece.isEmpty then return .inr (text, stop)
    setAllowsKey false
    forward piece.length
    let text := text ++ gap ++ piece
    let stop ← mark
    let gap ← plainGap
    if gap.isEmpty || (← peek) == '#' || (!inFlow && ((← mark).column : Int) < indent) then
      return .inr (text, stop)
    else return .inl (text, gap, stop)) (([] : List Char), ([] : List Char), start)
  emit (.scalar (String.ofList text) true) start stop

end TypeAnnotation.Yaml.Read
