import TypeAnnotation.Expr
import TypeAnnotation.Text.Lower

/-! # The grammar of annotations

A union is one or more terms with bars between them. The relations say which rows of lexemes are
terms, parameters and alternatives, and what each of them stands for. They know nothing of the
order in which a reader looks at the lexemes.
-/
namespace TypeAnnotation.Grammar
open Lexeme

mutual

/-- One term and the expression that it stands for. -/
inductive Term : List Lexeme → Expr → Prop
  | nullable {w : List Lexeme} {e : Expr} (h : Term w e) :
    Term (question :: w) (.union (e.alternatives ++ [.null]))
  | group {w : List Lexeme} {es : List Expr} (h : Alternatives w es) (depth : Nat) :
    Term (openGroup :: (w ++ closeGroup :: List.replicate depth brackets))
      ((Expr.ofAlternatives es).arrays depth)
  | generic (n : String) {w : List Lexeme} {key value : Expr} (h : Parameters w key value)
    (depth : Nat) :
    Term (name n :: openGeneric :: (w ++ closeGeneric :: List.replicate depth brackets))
      ((Expr.generic n key value).arrays depth)
  | null (n : String) (h : Text.lower n = "null") : Term [name n] .null
  | named (n : String) (depth : Nat) (h : depth = 0 → Text.lower n ≠ "null") :
    Term (name n :: List.replicate depth brackets) (.named (Expr.bracketed n depth))
  | bare (depth : Nat) :
    Term (List.replicate (depth + 1) brackets) (.named (Expr.bracketed "" (depth + 1)))

/-- The parameters of a generic, with the key type that is assumed when only values are named. -/
inductive Parameters : List Lexeme → Expr → Expr → Prop
  | value {w : List Lexeme} {es : List Expr} (h : Alternatives w es) :
    Parameters w Expr.defaultKey (Expr.ofAlternatives es)
  | keyValue {v w : List Lexeme} {ks es : List Expr} (hk : Alternatives v ks)
    (h : Alternatives w es) :
    Parameters (v ++ comma :: w) (Expr.ofAlternatives ks) (Expr.ofAlternatives es)

/-- Terms with bars between them and their alternatives from left to right. -/
inductive Alternatives : List Lexeme → List Expr → Prop
  | one {w : List Lexeme} {e : Expr} (h : Term w e) : Alternatives w e.alternatives
  | more {v w : List Lexeme} {e : Expr} {es : List Expr} (h : Term v e)
    (hs : Alternatives w es) : Alternatives (v ++ bar :: w) (e.alternatives ++ es)

end

/-- A whole annotation and the expression that it stands for. -/
def Derives (w : List Lexeme) (e : Expr) : Prop :=
  ∃ es, Alternatives w es ∧ e = Expr.ofAlternatives es

theorem Term.ne_nil {w : List Lexeme} {e : Expr} (h : Term w e) : w ≠ [] := by
  cases h <;> simp

theorem Alternatives.ne_nil {w : List Lexeme} {es : List Expr} (h : Alternatives w es) :
    w ≠ [] := by
  cases h with
  | one h => exact h.ne_nil
  | more => simp

/-- A bar between unions joins their alternatives. -/
theorem Alternatives.append {v w : List Lexeme} {es fs : List Expr} :
    Alternatives v es → Alternatives w fs → Alternatives (v ++ bar :: w) (es ++ fs)
  | .one h, hs => .more h hs
  | .more h hv, hs => by
    have hmore := Alternatives.more h (hv.append hs)
    simpa using hmore

end TypeAnnotation.Grammar
