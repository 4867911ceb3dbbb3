import TypeAnnotation.Expr
import TypeAnnotation.Text.Quoted

/-! # The log of a normalization

Whatever a normalization leaves out is noted, in order, beside its result.
-/
namespace TypeAnnotation

inductive Slot
  | key
  | value
deriving DecidableEq, Repr

def Slot.name : Slot → String
  | key => "key"
  | value => "value"

inductive Note
  | dropped (alternative whole : Expr)
  | nested (inner : Expr)
  | unknown (slot : Slot) (container : String) (candidates : Nat)
deriving DecidableEq, Repr

def Note.message : Note → String
  | dropped alternative whole =>
    "Dropped alternative " ++ Text.quote alternative.render ++ " of " ++ Text.quote whole.render
  | nested inner =>
    "Nested union " ++ Text.quote inner.render ++ " has no single descriptor"
  | unknown slot container candidates =>
    "Left " ++ slot.name ++ " slot of " ++ Text.quote container ++ " unknown (" ++
      toString candidates ++ " candidate types)"

/-- A value and the notes made on the way to it. -/
structure Logged (α : Type) where
  value : α
  notes : List Note
deriving Repr

namespace Logged

variable {α β : Type}

instance : Monad Logged where
  pure a := ⟨a, []⟩
  bind x f := ⟨(f x.value).value, x.notes ++ (f x.value).notes⟩
  map f x := ⟨f x.value, x.notes⟩

def note (n : Note) : Logged Unit := ⟨(), [n]⟩

@[simp] theorem value_pure (a : α) : (pure a : Logged α).value = a := rfl

@[simp] theorem notes_pure (a : α) : (pure a : Logged α).notes = [] := rfl

@[simp] theorem value_bind (x : Logged α) (f : α → Logged β) :
    (x >>= f).value = (f x.value).value := rfl

@[simp] theorem notes_bind (x : Logged α) (f : α → Logged β) :
    (x >>= f).notes = x.notes ++ (f x.value).notes := rfl

@[simp] theorem value_map (g : α → β) (x : Logged α) : (g <$> x).value = g x.value := rfl

@[simp] theorem notes_note (n : Note) : (note n).notes = [n] := rfl

@[simp] theorem notes_map (g : α → β) (x : Logged α) : (g <$> x).notes = x.notes := rfl

end Logged

end TypeAnnotation
