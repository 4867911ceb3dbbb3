import TypeAnnotation.Text.Quoted
import TypeAnnotation.Yaml.Token

/-! # The state of reading YAML tokens

What is ahead in the text and where, the tokens so far, the indentations that are open, and the
tokens that may turn out to begin a key. A line ends in a line feed, a next-line control, or a
line or paragraph separator; the end of the text reads as NUL, which no text holds.
-/
namespace TypeAnnotation.Yaml

structure PossibleKey where
  number : Nat
  required : Bool
  index : Nat
  mark : Mark
deriving Repr

structure Reading where
  ahead : List Char
  index : Nat := 0
  mark : Mark := ⟨0, 0⟩
  tokens : List Token := []
  indent : Int := -1
  indents : List Int := []
  flowLevel : Nat := 0
  allowsKey : Bool := true
  possibleKeys : List (Nat × PossibleKey) := []
deriving Repr

abbrev Read := StateT Reading (Except Error)

def isBreak (c : Char) : Bool := c == '\n' || c == '\u0085' || c == '\u2028' || c == '\u2029'

def isBreakOrEnd (c : Char) : Bool := isBreak c || c == '\x00'

def isSpaceOrEnd (c : Char) : Bool := c == ' ' || isBreakOrEnd c

def isGapOrEnd (c : Char) : Bool := c == '\t' || isSpaceOrEnd c

def isWordChar (c : Char) : Bool := c.isAlphanum || c == '-' || c == '_'

def Reading.step (r : Reading) : Reading :=
  match r.ahead with
  | [] => r
  | c :: ahead =>
    let mark :=
      if isBreak c then ⟨r.mark.line + 1, 0⟩
      else if c == '\ufeff' then r.mark
      else ⟨r.mark.line, r.mark.column + 1⟩
    { r with ahead, index := r.index + 1, mark }

namespace Read

def peekAt (offset : Nat) : Read Char := do return ((← get).ahead.drop offset).headD '\x00'

def peek : Read Char := peekAt 0

def mark : Read Mark := do return (← get).mark

def run (p : Char → Bool) : Read (List Char) := do return (← get).ahead.takeWhile p

def startsWith (text : String) : Read Bool := do return text.toList.isPrefixOf (← get).ahead

def forward (count : Nat) : Read Unit := modify fun r => count.repeat Reading.step r

def take (p : Char → Bool) : Read (List Char) := do
  let found ← run p
  forward found.length
  return found

def lineBreak : Read (List Char) := do
  let c ← peek
  if c == '\n' || c == '\u0085' then
    forward 1
    return ['\n']
  else if isBreak c then
    forward 1
    return [c]
  else return []

/-- Repeat a step until it ends with a result. Every step but the last takes a character, so as
many steps as there are characters ahead are enough. -/
def loop {α β : Type} [Inhabited β] (step : α → Read (α ⊕ β)) (start : α) : Read β := do
  let rec go : Nat → α → Read β
    | 0, _ => return default
    | fuel + 1, a => do
      match ← step a with
      | .inl a => go fuel a
      | .inr b => return b
  go ((← get).ahead.length + 2) start

def fail {α : Type} (context : Option (String × Mark)) (problem : String) : Read α := do
  throw (.problem context problem (← mark))

def failFound {α : Type} (context : String × Mark) (wanted : String) (found : Char) : Read α :=
  fail (some context) (wanted ++ ", but found " ++ Text.quote (String.singleton found))

def emit (content : Content) (start stop : Mark) : Read Unit :=
  modify fun r => { r with tokens := r.tokens ++ [⟨content, start, stop⟩] }

def emitMark (content : Content) (count : Nat) : Read Unit := do
  let start ← mark
  forward count
  emit content start (← mark)

def insertAt (number : Nat) (contents : List Content) (mark : Mark) : Read Unit :=
  modify fun r => { r with
    tokens := r.tokens.take number ++ contents.map (⟨·, mark, mark⟩) ++ r.tokens.drop number }

def setAllowsKey (allowsKey : Bool) : Read Unit := modify fun r => { r with allowsKey }

end Read

end TypeAnnotation.Yaml
