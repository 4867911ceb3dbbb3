import TypeAnnotation.Token

/-! # Type expressions

The tree that an annotation stands for. Alternatives keep the order in which they were written and
may be nested; `foreign` holds a value that is no type expression but can stand among them.
-/
namespace TypeAnnotation

inductive Expr
  | named (name : String)
  | null
  | union (alternatives : List Expr)
  | generic (name : String) (key value : Expr)
  | foreign (text : String)
deriving Repr, Inhabited

namespace Expr

def alternatives : Expr → List Expr
  | union alternatives => alternatives
  | e => [e]

/-- One alternative stands for itself. -/
def ofAlternatives : List Expr → Expr
  | [e] => e
  | alternatives => union alternatives

def arrayOf (element : Expr) : Expr := generic "array" (named "int") element

def defaultKey : Expr := union [named "int", named "string"]

def bracketed (name : String) : Nat → String
  | 0 => name
  | count + 1 => bracketed name count ++ "[]"

theorem bracketed_bracketed (name : String) (first more : Nat) :
    bracketed (bracketed name first) more = bracketed name (first + more) := by
  induction more with
  | zero => rfl
  | succ more ih => rw [bracketed, ih, ← Nat.add_assoc, bracketed]

theorem bracketed_brackets (name : String) (count : Nat) :
    bracketed (name ++ "[]") count = bracketed name (count + 1) := by
  rw [Nat.add_comm]
  exact bracketed_bracketed name 1 count

def arrays (element : Expr) : Nat → Expr
  | 0 => element
  | depth + 1 => arrayOf (arrays element depth)

/-- Whether the name is `null` in any letter case. -/
def isNullName (name : String) : Bool := name.toList.map Char.toLower == "null".toList

def ofName (name : String) (brackets : Nat) : Expr :=
  if brackets = 0 && isNullName name then null else named (bracketed name brackets)

def isNull : Expr → Bool
  | null => true
  | _ => false

def isUnion : Expr → Bool
  | union _ => true
  | _ => false

mutual

/-- The annotation that an expression is written as. Inner unions stand in parentheses. -/
def render : Expr → String
  | named name => name
  | null => "null"
  | union alternatives => "|".intercalate (renderAlternatives alternatives)
  | generic name key value => name ++ "<" ++ key.render ++ ", " ++ value.render ++ ">"
  | foreign text => text

def renderAlternatives : List Expr → List String
  | [] => []
  | e :: rest => (if e.isUnion then "(" ++ e.render ++ ")" else e.render) :: renderAlternatives rest

end

mutual

def decEq : (a b : Expr) → Decidable (a = b)
  | named x, named y => if h : x = y then isTrue (h ▸ rfl) else isFalse (by simpa using h)
  | null, null => isTrue rfl
  | union xs, union ys =>
    match decEqList xs ys with
    | isTrue h => isTrue (h ▸ rfl)
    | isFalse h => isFalse (by simpa using h)
  | generic x k v, generic y k' v' =>
    if h : x = y then
      match decEq k k', decEq v v' with
      | isTrue hk, isTrue hv => isTrue (by rw [h, hk, hv])
      | isFalse hk, _ => isFalse (by simp [hk])
      | _, isFalse hv => isFalse (by simp [hv])
    else isFalse (by simp [h])
  | foreign x, foreign y => if h : x = y then isTrue (h ▸ rfl) else isFalse (by simpa using h)
  | named _, null | named _, union _ | named _, generic .. | named _, foreign _
  | null, named _ | null, union _ | null, generic .. | null, foreign _
  | union _, named _ | union _, null | union _, generic .. | union _, foreign _
  | generic .., named _ | generic .., null | generic .., union _ | generic .., foreign _
  | foreign _, named _ | foreign _, null | foreign _, union _ | foreign _, generic .. =>
    isFalse nofun

def decEqList : (as bs : List Expr) → Decidable (as = bs)
  | [], [] => isTrue rfl
  | [], _ :: _ | _ :: _, [] => isFalse nofun
  | a :: as, b :: bs =>
    match decEq a b, decEqList as bs with
    | isTrue h, isTrue hs => isTrue (by rw [h, hs])
    | isFalse h, _ => isFalse (by simp [h])
    | _, isFalse hs => isFalse (by simp [hs])

end

instance : DecidableEq Expr := decEq

def firstPlaces (es : List Expr) : List Nat :=
  (List.range es.length).filter fun i => (es.take i).all fun e => some e ≠ es[i]?

end Expr

end TypeAnnotation
