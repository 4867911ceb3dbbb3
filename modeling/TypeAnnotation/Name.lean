import TypeAnnotation.Kind

/-! # Type names

Some builtin kinds have other spellings. A name that is no kind is the name of a class, which may
be written with a namespace separator in front.
-/
namespace TypeAnnotation.Name

def synonyms : List (String × String) := [
  ("integer", "int"),
  ("boolean", "bool"),
  ("double", "float"),
  ("callback", "callable"),
  ("void", "null")]

/-- The name that a spelling stands for. -/
def canonical (name : String) : String := (synonyms.lookup name).getD name

def spellings (kind : Kind) : List String :=
  (synonyms.filter (·.2 == kind.name)).map (·.1)

def unqualified (name : String) : String :=
  match name.toList with
  | '\\' :: rest => String.ofList rest
  | _ => name

/-- The kind that is meant and the class, if it is one. -/
def classify (name : String) : Kind × Option String :=
  match Kind.ofName? name with
  | some kind => (kind, none)
  | none => (.object, some (unqualified name))

end TypeAnnotation.Name
