import TypeAnnotation.Descriptor
import TypeAnnotation.Text.Quoted

/-! # Drafts of descriptors

A draft gives its kinds by name, which may be unknown. A draft of a descriptor resolves to it.
-/
namespace TypeAnnotation

structure UnknownKind where
  name : String
deriving DecidableEq, Repr

def UnknownKind.message (e : UnknownKind) : String :=
  Text.quote e.name ++ " is not a valid BuiltinKind"

def Kind.named (name : String) : Except UnknownKind Kind :=
  match ofName? name with
  | some kind => .ok kind
  | none => .error ⟨name⟩

namespace Descriptor

structure Draft where
  kind : String
  nullable : Bool := false
  className : Option String := none
  isCollection : Bool := false
  key : Option Draft := none
  value : Option Draft := none
deriving Repr, Inhabited

namespace Draft

mutual

/-- The descriptor of a draft. Slots come before the kind, so that of several unknown kinds the
first innermost one is reported. -/
def resolve : Draft → Except UnknownKind Descriptor
  | ⟨kind, nullable, className, isCollection, key, value⟩ => do
    let key ← resolveSlot key
    let value ← resolveSlot value
    let kind ← Kind.named kind
    return ⟨kind, nullable, className, isCollection, key, value⟩

def resolveSlot : Option Draft → Except UnknownKind (Option Descriptor)
  | none => .ok none
  | some draft => some <$> draft.resolve

end

mutual

def ofDescriptor : Descriptor → Draft
  | ⟨kind, nullable, className, isCollection, key, value⟩ =>
    ⟨kind.name, nullable, className, isCollection, ofSlot key, ofSlot value⟩

def ofSlot : Option Descriptor → Option Draft
  | none => none
  | some d => some (ofDescriptor d)

end

mutual

theorem resolve_ofDescriptor : (d : Descriptor) → (ofDescriptor d).resolve = .ok d
  | ⟨kind, nullable, className, isCollection, key, value⟩ => by
    rw [ofDescriptor, resolve, resolveSlot_ofSlot key, resolveSlot_ofSlot value]
    simp [Kind.named, Kind.ofName?_name, bind, Except.bind, pure, Except.pure]

theorem resolveSlot_ofSlot : (d : Option Descriptor) → resolveSlot (ofSlot d) = .ok d
  | none => rfl
  | some d => by
    rw [ofSlot, resolveSlot, resolve_ofDescriptor d]
    rfl

end

end Draft

end Descriptor

end TypeAnnotation
