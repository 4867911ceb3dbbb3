import TypeAnnotation.Yaml.Fault

/-! # Places and errors in a YAML text

An error says what was wrong and where, often with what was being read and where that began.
-/
namespace TypeAnnotation.Yaml

structure Mark where
  line : Nat
  column : Nat
deriving DecidableEq, Repr, Inhabited

def Mark.message (name : String) (m : Mark) : String :=
  "  in \"" ++ name ++ "\", line " ++ toString (m.line + 1) ++ ", column " ++
    toString (m.column + 1)

/-- What is wrong with a text. A faulty scalar is no error of YAML. -/
inductive Error
  | unprintable (character : Char) (position : Nat)
  | problem (context : Option (String × Mark)) (cause : String) (mark : Mark)
  | faulty (fault : Fault)
deriving DecidableEq, Repr, Inhabited

namespace Error

def codePoint (c : Char) : String :=
  let digits := Nat.toDigits 16 c.toNat
  String.ofList (List.replicate (4 - digits.length) '0' ++ digits)

/-- The lines of the message. The place of the context is left out if the problem is there too. -/
def message (name : String) : Error → String
  | unprintable c position =>
    "unacceptable character #x" ++ codePoint c ++ ": special characters are not allowed\n  in \"" ++
      name ++ "\", position " ++ toString position
  | problem context cause mark =>
    let around := match context with
      | none => []
      | some (text, place) => if place = mark then [text] else [text, place.message name]
    "\n".intercalate (around ++ [cause, mark.message name])
  | faulty fault => fault.message

end Error

end TypeAnnotation.Yaml
