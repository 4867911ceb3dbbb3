import TypeAnnotation.Markup.Argument.Node

/-! # Values of arguments

An argument has to be written out: a constant, a number, or a collection of such values. What can
be wrong with its value is all that is kept of it.
-/
namespace TypeAnnotation.Markup.Argument

inductive ValueError
  | malformed
  | noKey
  | unhashable (form : String)
deriving DecidableEq, Repr

def ValueError.message : ValueError → String
  | malformed => "malformed node or string"
  | noKey => "malformed node or string: None"
  | unhashable form => "unhashable type: '" ++ form ++ "'"

namespace Node

def signedNumber? : Node → Option Bool
  | number imaginary | signed (number imaginary) => some imaginary
  | _ => none

mutual

/-- Find the value of an expression. The answer is the form of its first part that cannot be a
member of a set or a key. -/
def evaluate : Node → Except ValueError (Option String)
  | number _ | quoted | constant _ => .ok none
  | signed (number _) => .ok none
  | sum left (number true) =>
    if left.signedNumber? = some false then .ok none else .error .malformed
  | tuple items => evaluateItems items
  | set items => do
    evaluateMembers items
    return some "set"
  | call (name "set") [] => .ok (some "set")
  | dict entries => do
    evaluateEntries entries
    return some "dict"
  | _ => .error .malformed

def evaluateItems : List Node → Except ValueError (Option String)
  | [] => .ok none
  | item :: rest => do
    let first ← item.evaluate
    return first.or (← evaluateItems rest)

def evaluateMembers : List Node → Except ValueError Unit
  | [] => .ok ()
  | item :: rest => do
    match ← item.evaluate with
    | some title => throw (.unhashable title)
    | none => evaluateMembers rest

def evaluateEntries : List Node → Except ValueError Unit
  | [] => .ok ()
  | entry key value :: rest => do
    let title ← key.evaluate
    let _ ← value.evaluate
    match title with
    | some title => throw (.unhashable title)
    | none => evaluateEntries rest
  | _ :: _ => .error .noKey

end

end Node

end TypeAnnotation.Markup.Argument
