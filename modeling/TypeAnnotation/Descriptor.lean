import TypeAnnotation.Document
import TypeAnnotation.Kind

/-! # Type descriptors

The canonical description of one alternative of a type: its builtin kind, whether null is allowed,
the class of an object, and what a collection holds. An absent slot of a collection is unknown.
-/
namespace TypeAnnotation

structure Descriptor where
  kind : Kind
  nullable : Bool := false
  className : Option String := none
  isCollection : Bool := false
  key : Option Descriptor := none
  value : Option Descriptor := none
deriving Repr, Inhabited

namespace Descriptor

def label (kind : Kind) : Option String → String
  | some className => if className = "" then kind.name else className
  | none => kind.name

mutual

/-- The annotation that describes the same type. -/
def render : Descriptor → String
  | ⟨kind, nullable, className, isCollection, key, value⟩ =>
    let slots :=
      if isCollection && (key.isSome || value.isSome) then
        "<" ++ renderSlot key ++ ", " ++ renderSlot value ++ ">"
      else ""
    (if nullable && kind != .null then "?" else "") ++ label kind className ++ slots

def renderSlot : Option Descriptor → String
  | none => "mixed"
  | some d => d.render

end

mutual

def toDocument : Descriptor → Document
  | ⟨kind, nullable, className, isCollection, key, value⟩ => .mapping [
      ("kind", .string kind.name),
      ("nullable", .bool nullable),
      ("class_name", match className with
        | none => .null
        | some className => .string className),
      ("is_collection", .bool isCollection),
      ("collection_key_type", slotToDocument key),
      ("collection_value_type", slotToDocument value)]

def slotToDocument : Option Descriptor → Document
  | none => .null
  | some d => d.toDocument

end

mutual

def decEq : (a b : Descriptor) → Decidable (a = b)
  | ⟨k, n, c, i, x, y⟩, ⟨k', n', c', i', x', y'⟩ =>
    if h : k = k' ∧ n = n' ∧ c = c' ∧ i = i' then
      match decEqSlot x x', decEqSlot y y' with
      | isTrue hx, isTrue hy => isTrue (by simp [h, hx, hy])
      | isFalse hx, _ => isFalse (by simp [hx])
      | _, isFalse hy => isFalse (by simp [hy])
    else isFalse (by simp only [mk.injEq]; rintro ⟨hk, hn, hc, hi, -⟩; exact h ⟨hk, hn, hc, hi⟩)

def decEqSlot : (a b : Option Descriptor) → Decidable (a = b)
  | none, none => isTrue rfl
  | none, some _ | some _, none => isFalse nofun
  | some a, some b =>
    match decEq a b with
    | isTrue h => isTrue (by rw [h])
    | isFalse h => isFalse (by simpa using h)

end

instance : DecidableEq Descriptor := decEq

end Descriptor

end TypeAnnotation
