import TypeAnnotation.Expr.Parse

/-! # Reading step by step

A cursor is a place among the tokens of a text. Each step answers or fails and leaves the cursor
where it got to, also on failure, so that steps can go on from there.
-/
namespace TypeAnnotation

/-- A place among the tokens of a text. -/
structure Cursor where
  text : String
  tokens : List Token
  index : Nat
deriving Repr

namespace Cursor

inductive Step
  | peek
  | advance
  | expect (kind : String)
  | expectEnd
  | fail (message : String)
  | readUnion
  | readTerm
  | readGeneric (name : String)
  | wrapArrays (element : Expr)
deriving Repr

inductive Answer
  | kind (kind : String)
  | token (token : Token)
  | expr (e : Expr)
  | done
deriving DecidableEq, Repr

inductive Failure
  | syntaxError (error : SyntaxError)
  | outOfTokens
deriving DecidableEq, Repr

def Failure.message : Failure → String
  | syntaxError error => error.message
  | outOfTokens => "list index out of range"

def ofText (text : String) : Except SyntaxError Cursor := do
  let tokens ← Token.scan text
  return ⟨text, tokens, 0⟩

def rest (c : Cursor) : List Token := c.tokens.drop c.index

def peek (c : Cursor) : String :=
  match c.rest with
  | token :: _ => token.lexeme.kind
  | [] => ""

def goTo (c : Cursor) (rest : List Token) : Cursor :=
  { c with index := c.tokens.length - rest.length }

def failure (c : Cursor) (reason : Reason) : Failure :=
  .syntaxError (.at c.text c.tokens c.rest reason)

def advance (c : Cursor) : Except Failure Answer × Cursor :=
  match c.rest with
  | token :: _ => (.ok (.token token), { c with index := c.index + 1 })
  | [] => (.error .outOfTokens, c)

def ofReading (c : Cursor) : Reading Expr c.rest → Except Failure Answer × Cursor
  | .value e rest _ => (.ok (.expr e), c.goTo rest)
  | .stopped reason rest => (.error ((c.goTo rest).failure reason), c.goTo rest)

/-- One step. -/
def step (c : Cursor) : Step → Except Failure Answer × Cursor
  | .peek => (.ok (.kind c.peek), c)
  | .advance => c.advance
  | .expect kind =>
    if c.peek = kind then c.advance else (.error (c.failure (.expectedKind kind)), c)
  | .expectEnd =>
    match c.rest with
    | token :: _ => (.error (c.failure (.unexpectedValue token.lexeme.value)), c)
    | [] => (.ok .done, c)
  | .fail message => (.error (c.failure (.stated message)), c)
  | .readUnion => c.ofReading (Expr.readUnion c.rest)
  | .readTerm => c.ofReading (Expr.readTerm c.rest)
  | .readGeneric name => c.ofReading (Expr.readGeneric name c.rest)
  | .wrapArrays element =>
    let (count, rest) := Expr.readBrackets c.rest
    (.ok (.expr (element.arrays count)), c.goTo rest)

/-- What each of a row of steps comes to, and where the cursor is after it. -/
def run (c : Cursor) : List Step → List (Except Failure Answer × Cursor)
  | [] => []
  | s :: steps => c.step s :: (c.step s).2.run steps

end Cursor

end TypeAnnotation
