import Std.Data.HashMap
import TypeAnnotation.Markup.Argument.Grammar
import TypeAnnotation.Markup.Argument.Quoted
import TypeAnnotation.Markup.Argument.Scan

/-! # Reading an argument

The rules of the grammar are tried on the tokens of a text. What a rule has matched at a place is
remembered. If the first reading fails, a second one looks for mistakes, and a complaint about the
tokens themselves takes precedence over what it finds.
-/
namespace TypeAnnotation.Markup.Argument

abbrev Match := Option (Tree × Nat)

/-- What has been tried at which places, and the furthest place that was looked at. The results of
some rules do not depend on whether mistakes are looked for. -/
structure Memory where
  results : Std.HashMap (Rule × Nat × Bool) Match := {}
  furthest : Nat := 0

inductive Halt
  | outOfTokens
  | refused (complaint : String)
deriving DecidableEq, Repr

abbrev Reading := ExceptT Halt (StateM Memory)

structure Source where
  scan : Scan
  inner : List Char → Option String

namespace Source

def look (s : Source) (place : Nat) : Reading Token :=
  match s.scan.tokens[place]? with
  | some token => do
    modify fun m => { m with furthest := Nat.max m.furthest place }
    return token
  | none => throw .outOfTokens

def take (s : Source) (place : Nat) (test : Token → Bool) : Reading Match := do
  let token ← s.look place
  return if test token then some (.token token, place + 1) else none

def quotedTexts (s : Source) (place : Nat) : Nat → Reading (List (Quoting × List Char))
  | 0 => return []
  | fuel + 1 => do
    let token ← s.look place
    match token.kind with
    | .quoted quoting => return (quoting, token.text.toList) :: (← quotedTexts s (place + 1) fuel)
    | _ => return []

end Source

def Token.Kind.includes : Token.Kind → Token.Kind → Bool
  | .quoted _, .quoted _ => true
  | a, b => a = b

/-- Whether the scanner has met the end of the text with the token at a place. A quoted text ends
before it. -/
def Source.isExhausted (s : Source) (place : Nat) : Bool :=
  s.scan.full && place + 1 = s.scan.tokens.size &&
    !s.scan.tokens.back?.any fun t => (Token.Kind.quoted {}).includes t.kind

/-- The rules whose results are remembered for all of a reading, also where mistakes are let pass in
a part of it. -/
def Rule.isSettled : Rule → Bool
  | .expression | .starExpression | .disjunction | .conjunction | .inversion | .factor | .awaited
  | .arguments | .target | .plainTarget | .badNamedExpression | .alternation | .exclusion
  | .intersection | .shift | .sum | .term | .primary | .targetPrimary => true
  | _ => false

mutual

def read (s : Source) (strict : Bool) (place : Nat) : Nat → Pattern → Reading Match
  | 0, _ => return none
  | fuel + 1, pattern =>
    match pattern with
    | .word text => s.take place fun t => t.kind = .word && t.text = text
    | .kind kind => s.take place fun t => kind.includes t.kind
    | .softKeyword => s.take place fun t => t.kind = .name && softKeywords.contains t.text
    | .bracketed => do
      let token ← s.look (place - 1)
      return if token.depth = 0 then none else some (.group [], place)
    | .quoted => do
      let texts ← s.quotedTexts place (s.scan.tokens.size + 1)
      if texts.isEmpty then return none
      match joinedComplaint? s.inner none texts with
      | some complaint => throw (.refused complaint)
      | none =>
        let formatted := texts.any fun (quoting, _) => quoting.formatted
        let node := if formatted then .form "f-string expression" else .quoted
        return some (.node node, place + texts.length)
    | .rule rule => do
      let key := (rule, place, strict && !rule.isSettled)
      match (← get).results[key]? with
      | some found => return found
      | none =>
        let found ← read s strict place fuel (grammar rule)
        modify fun m => { m with results := m.results.insert key found }
        return found
    | .all parts => readAll s strict place fuel [] parts
    | .choice patterns => readChoice s strict place fuel patterns
    | .many pattern => readMany s strict place fuel [] pattern
    | .ahead pattern => do
      return if (← read s strict place fuel pattern).isSome then some (.group [], place) else none
    | .absent pattern => do
      return if (← read s strict place fuel pattern).isSome then none else some (.group [], place)
    | .judge pattern verdict => do
      match ← read s strict place fuel pattern with
      | some (tree, place) =>
        match verdict tree with
        | .accept tree => return some (tree, place)
        | .reject => return none
        | .refuse complaint => throw (.refused complaint)
      | none => return none
    | .mistake pattern => if strict then read s strict place fuel pattern else return none
    | .lenient pattern => read s false place fuel pattern

def readAll (s : Source) (strict : Bool) (place : Nat) :
    Nat → List Tree → List Pattern → Reading Match
  | 0, _, _ => return none
  | _, found, [] => return some (.group found.reverse, place)
  | fuel + 1, found, pattern :: rest => do
    match ← read s strict place fuel pattern with
    | some (tree, place) => readAll s strict place fuel (tree :: found) rest
    | none => return none

def readChoice (s : Source) (strict : Bool) (place : Nat) : Nat → List Pattern → Reading Match
  | 0, _ => return none
  | _, [] => return none
  | fuel + 1, pattern :: rest => do
    match ← read s strict place fuel pattern with
    | some found => return some found
    | none => readChoice s strict place fuel rest

def readMany (s : Source) (strict : Bool) (place : Nat) :
    Nat → List Tree → Pattern → Reading Match
  | 0, _, _ => return none
  | fuel + 1, found, pattern => do
    match ← read s strict place fuel pattern with
    | some (tree, next) =>
      if next = place then return some (.group found.reverse, place)
      else readMany s strict next fuel (tree :: found) pattern
    | none => return some (.group found.reverse, place)

end

def depthFor (count : Nat) : Nat := 2000 * (count + 2)

def overruled (s : Source) (furthest : Nat) (complaint : String) : String :=
  match s.scan.stop with
  | .finished => complaint
  | .refused message => message
  | .stuck _ none => complaint
  | .stuck _ (some b) =>
    if ((s.scan.tokens[furthest]?).map (·.line)).any (b.line < ·) then b.unclosed else complaint

/-- The complaint of a reading that broke off. What the scanner refuses is not marked as part of
something else. -/
def haltComplaint (s : Source) (mark : String) (furthest : Nat) : Halt → String
  | .refused complaint =>
    if s.isExhausted furthest then mark ++ complaint else overruled s furthest (mark ++ complaint)
  | .outOfTokens =>
    match s.scan.stop with
    | .refused message => message
    | .stuck message _ => mark ++ message
    | .finished => mark ++ "invalid syntax"

def mistakeComplaint (s : Source) (mark : String) (start : Rule) (last : Option Token) : String :=
  let (result, memory) := (read s true 0 (depthFor s.scan.tokens.size) (.rule start)).run {}
  match result with
  | .error halt => haltComplaint s mark memory.furthest halt
  | .ok _ =>
    if last.any (·.kind = .indent) then mark ++ "unexpected indent"
    else if last.any (·.kind = .dedent) then mark ++ "unexpected unindent"
    else overruled s memory.furthest (mark ++ "invalid syntax")

/-- Read a text from a rule on. Complaints bear a mark in front. -/
def Source.parse (s : Source) (mark : String) (start : Rule) : Except String Node :=
  let (result, memory) := (read s false 0 (depthFor s.scan.tokens.size) (.rule start)).run {}
  match result with
  | .error halt => .error (haltComplaint s mark memory.furthest halt)
  | .ok (some (tree, _)) => .ok tree.first
  | .ok none => .error (mistakeComplaint s mark start (s.scan.tokens[memory.furthest]?))

def innerComplaint? : Nat → List Char → Option String
  | 0, _ => none
  | fuel + 1, text =>
    match (Source.mk (scan text) (innerComplaint? fuel)).parse "f-string: " .formatted with
    | .ok _ => none
    | .error complaint => some complaint

def Node.ofText (text : List Char) : Except String Node :=
  (Source.mk (scan text) (innerComplaint? text.length)).parse "" .whole

end TypeAnnotation.Markup.Argument
