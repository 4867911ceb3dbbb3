/-! # Builtin kinds

Every described value is of one builtin kind. Values of a class are objects.
-/
namespace TypeAnnotation

inductive Kind
  | int
  | float
  | string
  | bool
  | array
  | object
  | callable
  | resource
  | null
deriving DecidableEq, Repr, Inhabited

namespace Kind

def all : List Kind := [int, float, string, bool, array, object, callable, resource, null]

def name : Kind → String
  | int => "int"
  | float => "float"
  | string => "string"
  | bool => "bool"
  | array => "array"
  | object => "object"
  | callable => "callable"
  | resource => "resource"
  | null => "null"

def ofName? (name : String) : Option Kind := all.find? (·.name == name)

theorem ofName?_name (k : Kind) : ofName? k.name = some k := by cases k <;> decide

theorem eq_name_of_ofName? {s : String} {k : Kind} (h : ofName? s = some k) : s = k.name := by
  have found := List.find?_some (p := fun kind : Kind => kind.name == s) h
  exact (eq_of_beq found).symm

theorem ofName?_eq_none_iff {s : String} : ofName? s = none ↔ ∀ k : Kind, k.name ≠ s := by
  constructor
  · rintro h k rfl
    rw [ofName?_name] at h
    cases h
  · intro h
    cases hk : ofName? s with
    | none => rfl
    | some k => exact absurd (eq_name_of_ofName? hk).symm (h k)

end Kind

end TypeAnnotation
