import TypeAnnotation.Descriptor
import TypeAnnotation.Expr.Parse
import TypeAnnotation.Name
import TypeAnnotation.Normalize.Log

/-! # Normalization

The descriptors of a type expression, one for each alternative that tells a type. A null among the
alternatives has no descriptor of its own and makes the others nullable. A slot of a collection is
filled only if what stands there has exactly one descriptor.
-/
namespace TypeAnnotation

namespace Descriptor

def anyArray (nullable : Bool) : Descriptor :=
  { kind := .array, nullable, isCollection := true }

def arrayOf (nullable : Bool) (element : Descriptor) : Descriptor :=
  { kind := .array, nullable, isCollection := true, key := some { kind := .int },
    value := some element }

def ofName (nullable : Bool) (name : String) : Descriptor :=
  { kind := (Name.classify name).1, nullable, className := (Name.classify name).2 }

/-- The descriptor of a name whose characters are given from last to first. Bracket pairs at the
end make arrays; `mixed` and the empty name tell no type. -/
def ofReversedName? : List Char → Bool → Option Descriptor
  | ']' :: '[' :: element, nullable =>
    if String.ofList element.reverse ∈ ["", "mixed", "array"] then some (anyArray nullable)
    else (ofReversedName? element nullable).map (arrayOf nullable)
  | reversed, nullable =>
    let name := Name.canonical (String.ofList reversed.reverse)
    if name ∈ ["", "mixed"] then none
    else if name = "array" then some (anyArray nullable)
    else some (ofName nullable name)

def ofName? (name : String) (nullable : Bool) : Option Descriptor :=
  ofReversedName? name.toList.reverse nullable

end Descriptor

/-- A bracket pair at the end makes an array of what stands before it. -/
theorem Descriptor.ofName?_append_brackets (name : String) (nullable : Bool) :
    ofName? (name ++ "[]") nullable =
      if name ∈ ["", "mixed", "array"] then some (anyArray nullable)
      else (ofName? name nullable).map (arrayOf nullable) := by
  have hreversed : (name ++ "[]").toList.reverse = ']' :: '[' :: name.toList.reverse := by
    rw [String.toList_append, List.reverse_append]
    rfl
  rw [ofName?, hreversed, ofReversedName?, List.reverse_reverse, String.ofList_toList, ofName?]

/-- A name without a bracket pair at its end is looked up as it stands. -/
theorem Descriptor.ofName?_of_not_suffix {name : String} (h : ¬ "[]".toList <:+ name.toList)
    (nullable : Bool) :
    ofName? name nullable =
      if Name.canonical name ∈ ["", "mixed"] then none
      else if Name.canonical name = "array" then some (anyArray nullable)
      else some (ofName nullable (Name.canonical name)) := by
  have hplain : ∀ element, name.toList.reverse ≠ ']' :: '[' :: element := by
    intro element hr
    apply h
    have hprefix : "[]".toList.reverse <+: name.toList.reverse := by
      rw [hr]
      exact List.prefix_append [']', '['] element
    exact List.reverse_prefix.mp hprefix
  rw [ofName?, ofReversedName?]
  · simp only [List.reverse_reverse, String.ofList_toList]
  · exact hplain

theorem Descriptor.ofName?_of_not_mem {name : String} (h : ']' ∉ name.toList) (nullable : Bool) :
    ofName? name nullable =
      if Name.canonical name ∈ ["", "mixed"] then none
      else if Name.canonical name = "array" then some (anyArray nullable)
      else some (ofName nullable (Name.canonical name)) := by
  have hsuffix : ¬ "[]".toList <:+ name.toList := fun hs => h (hs.subset (by decide))
  exact ofName?_of_not_suffix hsuffix nullable

def Slot.fill (slot : Slot) (container : String) (found : List Descriptor) :
    Logged (Option Descriptor) :=
  match found with
  | [d] => pure (some d)
  | _ => do
    Logged.note (.unknown slot container found.length)
    pure none

def Descriptor.collection (name : String) (nullable : Bool)
    (keys values : Logged (List Descriptor)) : Logged Descriptor := do
  let key ← Slot.key.fill name (← keys)
  let value ← Slot.value.fill name (← values)
  return { Descriptor.ofName nullable name with isCollection := true, key, value }

namespace Expr

mutual

/-- The descriptors of an expression, one for each usable alternative. A null that stands alone
has a descriptor too. -/
def normalize : Expr → Logged (List Descriptor)
  | named name => pure (Descriptor.ofName? name false).toList
  | null => pure (Descriptor.ofName? "null" true).toList
  | union alternatives =>
    describeAll (union alternatives) (alternatives.any isNull) alternatives
  | generic name key value =>
    (fun d => [d]) <$> Descriptor.collection name false key.normalize value.normalize
  | foreign _ => pure []

def describe : Expr → Bool → Logged (Option Descriptor)
  | named name, nullable => pure (Descriptor.ofName? name nullable)
  | null, nullable => pure (Descriptor.ofName? "null" nullable)
  | union alternatives, _ => do
    Logged.note (.nested (union alternatives))
    return none
  | generic name key value, nullable =>
    some <$> Descriptor.collection name nullable key.normalize value.normalize
  | foreign _, _ => pure none

/-- The descriptors of the alternatives of a union, nulls left out. -/
def describeAll (whole : Expr) (nullable : Bool) : List Expr → Logged (List Descriptor)
  | [] => pure []
  | alternative :: rest =>
    if alternative.isNull then describeAll whole nullable rest
    else do
      match ← describe alternative nullable with
      | some d => (d :: ·) <$> describeAll whole nullable rest
      | none =>
        Logged.note (.dropped alternative whole)
        describeAll whole nullable rest

end

/-- Outside of unions there is one descriptor at most, nullable only for a null. -/
theorem normalize_eq_describe {e : Expr} (h : e.isUnion = false) :
    e.normalize = Option.toList <$> e.describe e.isNull := by
  cases e <;> first | rfl | simp [isUnion] at h

end Expr

def normalizeText (text : String) : Except SyntaxError (Logged (List Descriptor)) := do
  let e ← Expr.parse text
  return e.normalize

theorem normalizeText_of_parse {text : String} {e : Expr} (h : Expr.parse text = .ok e) :
    normalizeText text = .ok e.normalize := by
  rw [normalizeText, h]
  rfl

theorem normalizeText_of_parse_eq_error {text : String} {error : SyntaxError}
    (h : Expr.parse text = .error error) : normalizeText text = .error error := by
  rw [normalizeText, h]
  rfl

end TypeAnnotation
