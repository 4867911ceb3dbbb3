import TypeAnnotation.Text.Quoted
import TypeAnnotation.Token

/-! # Syntax errors

Why a text is no annotation, and where.
-/
namespace TypeAnnotation

inductive Reason
  | unexpectedCharacter (character : Char)
  | expectedKind (kind : String)
  | unexpectedValue (value : String)
  | expectedTypeName
  | tooManyParameters
  | noTokens
  | stated (message : String)
deriving DecidableEq, Repr, Inhabited

namespace Reason

def message : Reason → String
  | unexpectedCharacter c => "Unexpected character " ++ Text.quote (String.singleton c)
  | expectedKind kind => "Expected " ++ Text.quote kind
  | unexpectedValue value => "Unexpected " ++ Text.quote value
  | expectedTypeName => "Expected a type name"
  | tooManyParameters => "Generics take at most a key and a value type"
  | noTokens => "Empty annotation"
  | stated message => message

end Reason

/-- A reason and the place in the text that it is about, counted in characters. -/
structure SyntaxError where
  reason : Reason
  position : Nat
  text : String
deriving DecidableEq, Repr, Inhabited

namespace SyntaxError

def message (e : SyntaxError) : String :=
  e.reason.message ++ " at position " ++ toString e.position ++ " in " ++ Text.quote e.text

end SyntaxError

def Token.scan (text : String) : Except SyntaxError (List Token) :=
  (scanFrom 0 text.toList).mapError fun (c, position) =>
    ⟨.unexpectedCharacter c, position, text⟩

end TypeAnnotation
