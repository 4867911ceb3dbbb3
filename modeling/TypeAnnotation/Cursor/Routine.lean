import TypeAnnotation.Cursor
import TypeAnnotation.Text.Lower

/-! # Reading move by move

The steps of a cursor as they look at the next token and take it, one at a time. Taking fails at the
end of the tokens and reading may go on forever, as nothing bounds these routines.
-/
namespace TypeAnnotation.Cursor

/-- What a cursor is read by: an answer or a failure and the cursor left behind, if reading ends. -/
abbrev Routine (α : Type) := ExceptT Failure (StateT Cursor Option) α

namespace Routine

def peek : Routine String := fun c => some (.ok c.peek, c)

def take : Routine Token := fun c =>
  match c.rest with
  | token :: _ => some (.ok token, { c with index := c.index + 1 })
  | [] => some (.error .outOfTokens, c)

def fail {α : Type} (reason : Reason) : Routine α := fun c => some (.error (c.failure reason), c)

def require (kind : String) : Routine Token := do
  if (← peek) = kind then take else fail (.expectedKind kind)

def requireEnd : Routine Unit := fun c =>
  match c.rest with
  | token :: _ => fail (.unexpectedValue token.lexeme.value) c
  | [] => some (.ok (), c)

/-- What the routine answers, changed by each token of the given kind that comes next. -/
def whileNext {α : Type} (m : Routine α) (kind : String) (change : α → Token → α) :
    Routine α := do
  let a ← m
  if (← peek) = kind then
    (do return change a (← take) : Routine α) |>.whileNext kind change
  else
    return a
partial_fixpoint

def wrapArrays (e : Expr) : Routine Expr :=
  whileNext (pure e) "array" fun e _ => .arrayOf e

def brackets (name : String) : Routine String :=
  whileNext (pure name) "array" fun name pair => name ++ pair.lexeme.value

def closeGeneric (name : String) (key value : Expr) : Routine Expr := do
  if (← peek) = "," then
    fail .tooManyParameters
  else
    let _ ← require ">"
    return .generic name key value

inductive Call
  | union (alternatives : List Expr)
  | term
  | generic (name : String)

def Call.read : Call → Routine Expr
  | union alternatives => do
    let term ← Call.term |>.read
    let alternatives := alternatives ++ term.alternatives
    if (← peek) = "|" then
      let _ ← take
      Call.union alternatives |>.read
    else
      return .ofAlternatives alternatives
  | term => do
    let kind ← peek
    if kind = "?" then
      let _ ← take
      let inner ← Call.term |>.read
      return .union (inner.alternatives ++ [.null])
    else if kind = "(" then
      let _ ← take
      let group ← Call.union [] |>.read
      let _ ← require ")"
      wrapArrays group
    else if kind = "name" then
      let token ← take
      if (← peek) = "<" then
        let container ← Call.generic token.lexeme.value |>.read
        wrapArrays container
      else
        let name ← brackets token.lexeme.value
        return if Text.lower name = "null" then .null else .named name
    else if kind = "array" then
      let name ← brackets ""
      return .named name
    else
      fail .expectedTypeName
  | generic name => do
    let _ ← require "<"
    let first ← Call.union [] |>.read
    if (← peek) = "," then
      let _ ← take
      let second ← Call.union [] |>.read
      closeGeneric name first second
    else
      closeGeneric name .defaultKey first
partial_fixpoint

def union (alternatives : List Expr) : Routine Expr := (Call.union alternatives).read

def term : Routine Expr := Call.term.read

def generic (name : String) : Routine Expr := (Call.generic name).read

end Routine

def Step.routine : Step → Routine Answer
  | .peek => return .kind (← Routine.peek)
  | .advance => return .token (← Routine.take)
  | .expect kind => return .token (← Routine.require kind)
  | .expectEnd => do
    Routine.requireEnd
    return .done
  | .fail message => Routine.fail (.stated message)
  | .readUnion => return .expr (← Routine.union [])
  | .readTerm => return .expr (← Routine.term)
  | .readGeneric name => return .expr (← Routine.generic name)
  | .wrapArrays element => return .expr (← Routine.wrapArrays element)

end TypeAnnotation.Cursor
