import TypeAnnotation.Text.Blank

/-! # Tokens

An annotation is read as a row of names, bracket pairs and punctuation marks, with white space
between them. A name is as long as possible; a bracket pair is one token.
-/
namespace TypeAnnotation

inductive Lexeme
  | name (text : String)
  | brackets
  | bar
  | question
  | openGroup
  | closeGroup
  | openGeneric
  | closeGeneric
  | comma
deriving DecidableEq, Repr, Inhabited

structure Token where
  lexeme : Lexeme
  position : Nat
deriving DecidableEq, Repr, Inhabited

namespace Lexeme

def value : Lexeme → String
  | name text => text
  | brackets => "[]"
  | bar => "|"
  | question => "?"
  | openGroup => "("
  | closeGroup => ")"
  | openGeneric => "<"
  | closeGeneric => ">"
  | comma => ","

def kind : Lexeme → String
  | name _ => "name"
  | brackets => "array"
  | mark => mark.value

def ofMark? : Char → Option Lexeme
  | '|' => some bar
  | '?' => some question
  | '(' => some openGroup
  | ')' => some closeGroup
  | '<' => some openGeneric
  | '>' => some closeGeneric
  | ',' => some comma
  | _ => none

end Lexeme

namespace Token

/-- A character that may begin a name, white space of that range excepted. -/
def startsName (c : Char) : Bool :=
  c.isAlpha || c == '_' || c == '\\' || (0x80 ≤ c.toNat && c.toNat ≤ 0xffff)

def continuesName (c : Char) : Bool :=
  startsName c || c.isDigit || c == '-' || c == '.'

/-- The tokens of a text whose first character stands at `position`, or the first character that
belongs to no token, with its place. -/
def scanFrom (position : Nat) : List Char → Except (Char × Nat) (List Token)
  | [] => .ok []
  | '[' :: ']' :: rest => (⟨.brackets, position⟩ :: ·) <$> scanFrom (position + 2) rest
  | c :: rest =>
    if Text.isBlank c then scanFrom (position + 1) rest
    else if startsName c then
      let name := c :: rest.takeWhile continuesName
      (⟨.name (String.ofList name), position⟩ :: ·) <$>
        scanFrom (position + name.length) (rest.dropWhile continuesName)
    else match Lexeme.ofMark? c with
      | some mark => (⟨mark, position⟩ :: ·) <$> scanFrom (position + 1) rest
      | none => .error (c, position)
termination_by text => text.length
decreasing_by
  · simp only [List.length_cons]; omega
  · simp only [List.length_cons]; omega
  · exact Nat.lt_succ_of_le (List.dropWhile_sublist continuesName).length_le
  · simp only [List.length_cons]; omega

end Token

end TypeAnnotation
