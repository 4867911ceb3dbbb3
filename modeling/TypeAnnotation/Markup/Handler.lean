import TypeAnnotation.Markup.Argument.Parse
import TypeAnnotation.Markup.Argument.Value
import TypeAnnotation.Text.Blank
import TypeAnnotation.Text.Quoted

/-! # Handler tags

A tag whose name begins with `@` says what is called when its text is clicked on: a name with
arguments between parentheses. The arguments are looked at when the tag is closed.
-/
namespace TypeAnnotation.Markup

/-- What is wrong with the arguments of a handler, the text of which is `text`: its part that was
read is no expression, or the expression has no value. -/
inductive HandlerError
  | unreadable (part text complaint : String)
  | valueless (text complaint : String)
deriving DecidableEq, Repr

def HandlerError.message : HandlerError → String
  | unreadable part text complaint =>
    "error parsing " ++ Text.quote part ++ " in " ++ Text.quote text ++ "; " ++ complaint
  | valueless text complaint => "error parsing " ++ Text.quote text ++ "; " ++ complaint

/-- The part of a handler that is read as an expression: what stands behind its name, or all of it
if that is not between parentheses on a line. -/
def handlerArguments (handler : List Char) : List Char :=
  let rest := handler.dropWhile fun c => Text.isWordChar c || c == '.'
  if rest.isEmpty then ['(', ')']
  else if rest.head? == some '(' && rest.getLast? == some ')' && !rest.contains '\n' then rest
  else handler

def handlerError? (text : String) : Option HandlerError :=
  let part := handlerArguments (Text.trim text.toList)
  match Argument.Node.ofText part with
  | .error complaint => some (.unreadable (String.ofList part) text complaint)
  | .ok node =>
    match node.evaluate with
    | .error e => some (.valueless text e.message)
    | .ok _ => none

end TypeAnnotation.Markup
