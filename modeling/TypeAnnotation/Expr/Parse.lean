import TypeAnnotation.Expr
import TypeAnnotation.SyntaxError

/-! # Reading type expressions

A union is one or more terms with bars between them. A term is a question mark before a term, a
group in parentheses, a generic, a name, or bracket pairs alone; bracket pairs may follow each of
these but the first. Every routine takes the tokens ahead and returns those it leaves, of which
there are fewer, so that the recursion ends.
-/
namespace TypeAnnotation

/-- What came of reading at `tokens`: a value and the tokens after it, or the reason why reading
stopped and the tokens still ahead of it there. -/
inductive Reading (α : Type) (tokens : List Token)
  | value (value : α) (rest : List Token) (shorter : rest.length < tokens.length)
  | stopped (reason : Reason) (rest : List Token)

def Token.after? (mark : Lexeme) :
    (tokens : List Token) → Option {rest : List Token // rest.length < tokens.length}
  | [] => none
  | token :: rest =>
    if token.lexeme = mark then some ⟨rest, Nat.lt_succ_self rest.length⟩ else none

namespace Expr

def readBrackets : List Token → Nat × List Token
  | ⟨.brackets, _⟩ :: rest => ((readBrackets rest).1 + 1, (readBrackets rest).2)
  | rest => (0, rest)

theorem length_readBrackets_le (tokens : List Token) :
    (readBrackets tokens).2.length ≤ tokens.length := by
  fun_induction readBrackets tokens with
  | case1 _ rest ih => exact Nat.le_succ_of_le ih
  | case2 => exact Nat.le_refl _

def closeGeneric (name : String) (key value : Expr) (rest tokens : List Token)
    (shorter : rest.length < tokens.length) : Reading Expr tokens :=
  if (Token.after? .comma rest).isSome then .stopped .tooManyParameters rest
  else match Token.after? .closeGeneric rest with
    | some ⟨after, less⟩ => .value (generic name key value) after (Nat.lt_trans less shorter)
    | none => .stopped (.expectedKind ">") rest

def readSuffix (element : Expr) (rest tokens : List Token)
    (shorter : rest.length < tokens.length) : Reading Expr tokens :=
  .value (arrays element (readBrackets rest).1) (readBrackets rest).2
    (Nat.lt_of_le_of_lt (length_readBrackets_le rest) shorter)

mutual

/-- The alternatives of a union. Those of a term that is a union itself are spliced in. -/
def readAlternatives (tokens : List Token) : Reading (List Expr) tokens :=
  match readTerm tokens with
  | .stopped reason rest => .stopped reason rest
  | .value term rest shorter =>
    match Token.after? .bar rest with
    | none => .value term.alternatives rest shorter
    | some ⟨after, less⟩ =>
      have less := Nat.lt_trans less shorter
      match readAlternatives after with
      | .stopped reason rest => .stopped reason rest
      | .value others rest shorter =>
        .value (term.alternatives ++ others) rest (Nat.lt_trans shorter less)
termination_by (tokens.length, 1)

def readTerm (tokens : List Token) : Reading Expr tokens :=
  match tokens with
  | [] => .stopped .expectedTypeName []
  | ⟨.question, _⟩ :: rest =>
    match readTerm rest with
    | .stopped reason rest => .stopped reason rest
    | .value inner rest shorter =>
      .value (union (inner.alternatives ++ [null])) rest (Nat.lt_succ_of_lt shorter)
  | ⟨.openGroup, _⟩ :: rest =>
    match readAlternatives rest with
    | .stopped reason rest => .stopped reason rest
    | .value alternatives rest shorter =>
      match Token.after? .closeGroup rest with
      | none => .stopped (.expectedKind ")") rest
      | some ⟨after, less⟩ =>
        readSuffix (ofAlternatives alternatives) after _
          (Nat.lt_succ_of_lt (Nat.lt_trans less shorter))
  | ⟨.name name, _⟩ :: rest =>
    if (Token.after? .openGeneric rest).isSome then
      match readGeneric name rest with
      | .stopped reason rest => .stopped reason rest
      | .value container rest shorter => readSuffix container rest _ (Nat.lt_succ_of_lt shorter)
    else
      .value (ofName name (readBrackets rest).1) (readBrackets rest).2
        (Nat.lt_succ_of_le (length_readBrackets_le rest))
  | ⟨.brackets, _⟩ :: rest =>
    .value (named (bracketed "" ((readBrackets rest).1 + 1))) (readBrackets rest).2
      (Nat.lt_succ_of_le (length_readBrackets_le rest))
  | token :: rest => .stopped .expectedTypeName (token :: rest)
termination_by (tokens.length, 0)

def readGeneric (name : String) (tokens : List Token) : Reading Expr tokens :=
  match Token.after? .openGeneric tokens with
  | none => .stopped (.expectedKind "<") tokens
  | some ⟨inside, within⟩ =>
    match readAlternatives inside with
    | .stopped reason rest => .stopped reason rest
    | .value first rest shorter =>
      have shorter := Nat.lt_trans shorter within
      match Token.after? .comma rest with
      | none => closeGeneric name defaultKey (ofAlternatives first) rest _ shorter
      | some ⟨after, less⟩ =>
        have less := Nat.lt_trans less shorter
        match readAlternatives after with
        | .stopped reason rest => .stopped reason rest
        | .value second rest shorter =>
          closeGeneric name (ofAlternatives first) (ofAlternatives second) rest _
            (Nat.lt_trans shorter less)
termination_by (tokens.length, 0)

end

def readUnion (tokens : List Token) : Reading Expr tokens :=
  match readAlternatives tokens with
  | .stopped reason rest => .stopped reason rest
  | .value alternatives rest shorter => .value (ofAlternatives alternatives) rest shorter

end Expr

def Token.placeOf (text : String) : List Token → Nat
  | token :: _ => token.position
  | [] => text.length

/-- The error of stopping before `rest`. Of a text without tokens it only says that it is empty. -/
def SyntaxError.at (text : String) (tokens rest : List Token) (reason : Reason) : SyntaxError :=
  ⟨if tokens.isEmpty then .noTokens else reason, Token.placeOf text rest, text⟩

namespace Expr

def ofTokens (text : String) (tokens : List Token) : Except SyntaxError Expr :=
  match readUnion tokens with
  | .stopped reason rest => .error (.at text tokens rest reason)
  | .value e [] _ => .ok e
  | .value _ (token :: rest) _ =>
    .error (.at text tokens (token :: rest) (.unexpectedValue token.lexeme.value))

def parse (text : String) : Except SyntaxError Expr := do
  let tokens ← Token.scan text
  ofTokens text tokens

end Expr

end TypeAnnotation
