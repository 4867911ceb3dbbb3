/-! # Expressions

Expressions as far as their values and the complaints about them need them. What has no value as an
argument is kept by the name of its form.
-/
namespace TypeAnnotation.Markup.Argument

inductive Node
  | name (word : String)
  | number (imaginary : Bool)
  | quoted
  | constant (word : String)
  | tuple (items : List Node)
  | set (items : List Node)
  | dict (entries : List Node)
  | entry (key value : Node)
  | unpacked (value : Node)
  | starred (value : Node)
  | signed (operand : Node)
  | sum (left right : Node)
  | call (function : Node) (arguments : List Node)
  | keyword (value : Node)
  | comparison (left : Node) (membership : Bool)
  | form (title : String)
deriving Repr, Inhabited

namespace Node

def formName : Node → String
  | name _ => "name"
  | number _ | quoted => "literal"
  | constant word => word
  | tuple _ => "tuple"
  | set _ => "set display"
  | dict _ => "dict literal"
  | starred _ => "starred"
  | signed _ | sum _ _ => "expression"
  | call _ _ => "function call"
  | comparison _ _ => "comparison"
  | form title => title
  | entry _ _ | unpacked _ | keyword _ => ""

mutual

def badTarget? : Node → Option Node
  | tuple items => firstBadTarget? items
  | starred value => value.badTarget?
  | comparison left membership => if membership then left.badTarget? else none
  | name _ => none
  | node => if node.formName = "attribute" then none else some node

def firstBadTarget? : List Node → Option Node
  | [] => none
  | node :: rest => (badTarget? node).or (firstBadTarget? rest)

end

def isPositional : Node → Bool
  | keyword _ | unpacked _ => false
  | _ => true

def isUnpacked : Node → Bool
  | unpacked _ => true
  | _ => false

def isStatement : Node → Bool
  | name word => word = "print" || word = "exec"
  | _ => false

end Node

end TypeAnnotation.Markup.Argument
