import Mathlib.Data.List.Forall2
import TypeAnnotation.Normalize

/-! # Nulls among alternatives

A null among the alternatives of a union makes the descriptors of the others nullable. Of a name
this goes for the elements of an array too, however deep; what a generic holds is left alone. Where
the nulls stand and how many there are makes no difference.
-/
namespace TypeAnnotation

namespace Descriptor

/-- Null is allowed on the right but not on the left, and up to the value nothing else differs. -/
structure GainsNull (d d' : Descriptor) : Prop where
  not_nullable : d.nullable = false
  nullable : d'.nullable = true
  kind : d'.kind = d.kind
  className : d'.className = d.className
  isCollection : d'.isCollection = d.isCollection
  key : d'.key = d.key

inductive GainsNullThrough : Descriptor → Descriptor → Prop
  | plain {d d' : Descriptor} (h : GainsNull d d') (hd : d.value = none)
    (hd' : d'.value = none) : GainsNullThrough d d'
  | element {d d' v v' : Descriptor} (h : GainsNull d d') (hd : d.value = some v)
    (hd' : d'.value = some v') (hv : GainsNullThrough v v') : GainsNullThrough d d'

theorem GainsNullThrough.gainsNull {d d' : Descriptor} (h : GainsNullThrough d d') :
    GainsNull d d' := by
  cases h <;> assumption

theorem gainsNullThrough_anyArray : GainsNullThrough (anyArray false) (anyArray true) :=
  .plain ⟨rfl, rfl, rfl, rfl, rfl, rfl⟩ rfl rfl

theorem gainsNullThrough_ofName (name : String) :
    GainsNullThrough (ofName false name) (ofName true name) :=
  .plain ⟨rfl, rfl, rfl, rfl, rfl, rfl⟩ rfl rfl

theorem GainsNullThrough.arrayOf {d d' : Descriptor} (h : GainsNullThrough d d') :
    GainsNullThrough (arrayOf false d) (arrayOf true d') :=
  .element ⟨rfl, rfl, rfl, rfl, rfl, rfl⟩ rfl rfl h

/-- Whether a name tells a type does not depend on the flag, which runs down to the last element. -/
theorem gainsNullThrough_ofReversedName? (cs : List Char) :
    Option.Rel GainsNullThrough (ofReversedName? cs false) (ofReversedName? cs true) := by
  -- Both runs take the same branches: the cases are those of the left one.
  generalize hflag : false = flag
  fun_induction ofReversedName? cs flag with
  | case1 element flag h =>
    rw [ofReversedName?, if_pos h, ← hflag]
    exact .some gainsNullThrough_anyArray
  | case2 element flag h ih =>
    have hrel := ih hflag
    rw [ofReversedName?, if_neg h]
    generalize ofReversedName? element flag = found at hrel ⊢
    generalize ofReversedName? element true = found' at hrel ⊢
    subst hflag
    cases hrel with
    | none => exact .none
    | some hd => exact .some hd.arrayOf
  | case3 reversed flag hpair name hempty =>
    rw [ofReversedName?, if_pos hempty]
    · exact .none
    · exact hpair
  | case4 reversed flag hpair name hempty harray =>
    rw [ofReversedName?, if_neg hempty, if_pos harray, ← hflag]
    · exact .some gainsNullThrough_anyArray
    · exact hpair
  | case5 reversed flag hpair name hempty harray =>
    rw [ofReversedName?, if_neg hempty, if_neg harray, ← hflag]
    · exact .some (gainsNullThrough_ofName name)
    · exact hpair

end Descriptor

namespace Expr

/-- What a null among the other alternatives does to the descriptor of this one. Only names and
generics have a descriptor. -/
def GainsNull : Expr → Descriptor → Descriptor → Prop
  | named _, d, d' => d.GainsNullThrough d'
  | generic .., d, d' => d.GainsNull d' ∧ d'.value = d.value
  | _, _, _ => False

theorem GainsNull.gainsNull {e : Expr} {d d' : Descriptor} (h : e.GainsNull d d') :
    d.GainsNull d' := by
  cases e with
  | named =>
    have hthrough : d.GainsNullThrough d' := h
    exact hthrough.gainsNull
  | generic => exact h.1
  | null | union | foreign => exact h.elim

/-- Whether an alternative has a descriptor does not depend on the flag. -/
theorem gainsNull_describe {e : Expr} (h : e.isNull = false) :
    Option.Rel e.GainsNull (e.describe false).value (e.describe true).value := by
  cases e with
  | named name => exact Descriptor.gainsNullThrough_ofReversedName? name.toList.reverse
  | null => cases h
  | union | foreign => exact .none
  | generic => exact .some ⟨⟨rfl, rfl, rfl, rfl, rfl, rfl⟩, rfl⟩

/-- The flag of a descriptor is the one that it was asked for with. -/
theorem nullable_of_describe {e : Expr} {flag : Bool} {d : Descriptor} (h : e.isNull = false)
    (hd : (e.describe flag).value = some d) : d.nullable = flag := by
  have hrel := gainsNull_describe h
  cases flag with
  | false =>
    rw [hd] at hrel
    generalize (e.describe true).value = found at hrel
    cases hrel with
    | some hgains => exact hgains.gainsNull.not_nullable
  | true =>
    rw [hd] at hrel
    generalize (e.describe false).value = found at hrel
    cases hrel with
    | some hgains => exact hgains.gainsNull.nullable

/-- The alternatives that are no nulls. -/
def withoutNulls (es : List Expr) : List Expr := es.filter fun e => !e.isNull

theorem mem_withoutNulls {e : Expr} {es : List Expr} :
    e ∈ withoutNulls es ↔ e ∈ es ∧ e.isNull = false := by
  simp [withoutNulls]

/-- The descriptors of the alternatives that are no nulls, in order, with one flag for all. -/
def describeEach (flag : Bool) (es : List Expr) : List Descriptor :=
  (withoutNulls es).filterMap fun e => (e.describe flag).value

@[simp] theorem describeEach_nil (flag : Bool) : describeEach flag [] = [] := rfl

@[simp] theorem describeEach_append (flag : Bool) (es fs : List Expr) :
    describeEach flag (es ++ fs) = describeEach flag es ++ describeEach flag fs := by
  rw [describeEach, withoutNulls, List.filter_append, List.filterMap_append]
  rfl

@[simp] theorem describeEach_null_cons (flag : Bool) (es : List Expr) :
    describeEach flag (null :: es) = describeEach flag es := rfl

theorem describeEach_singleton {e : Expr} (h : e.isNull = false) (flag : Bool) :
    describeEach flag [e] = (e.describe flag).value.toList := by
  cases hd : (e.describe flag).value <;> simp [describeEach, withoutNulls, h, hd]

theorem nullable_of_mem_describeEach {flag : Bool} {es : List Expr} {d : Descriptor}
    (h : d ∈ describeEach flag es) : d.nullable = flag := by
  obtain ⟨e, he, hd⟩ := List.mem_filterMap.mp h
  exact nullable_of_describe (mem_withoutNulls.mp he).2 hd

theorem value_describeAll (whole : Expr) (flag : Bool) (es : List Expr) :
    (describeAll whole flag es).value = describeEach flag es := by
  induction es with
  | nil => rfl
  | cons e es ih =>
    rw [describeEach, withoutNulls] at ih
    rw [describeAll, describeEach, withoutNulls, List.filter_cons]
    cases hn : e.isNull with
    | true => simpa using ih
    | false => cases hd : (e.describe flag).value <;> simpa [hd] using ih

/-- Of the nulls among the alternatives only this matters, whether there is one. -/
theorem value_normalize_union (es : List Expr) :
    (union es).normalize.value = describeEach (es.any isNull) es := by
  rw [normalize, value_describeAll]

/-- With and without a null beside them the alternatives have descriptors pairwise. -/
theorem forall₂_describe {es : List Expr} (h : ∀ e ∈ es, e.isNull = false) :
    List.Forall₂ (fun d d' => ∃ e ∈ es,
        (e.describe false).value = some d ∧ (e.describe true).value = some d' ∧ e.GainsNull d d')
      (es.filterMap fun e => (e.describe false).value)
      (es.filterMap fun e => (e.describe true).value) := by
  have hsame : List.Forall₂ (fun e f => e ∈ es ∧ e = f) es es :=
    List.forall₂_same.mpr fun e he => ⟨he, rfl⟩
  refine List.rel_filterMap (fun e f hef => ?_) hsame
  obtain ⟨he, rfl⟩ := hef
  have hrel := gainsNull_describe (h e he)
  generalize hd : (e.describe false).value = found at hrel
  generalize hd' : (e.describe true).value = found' at hrel
  cases hrel with
  | none => exact .none
  | some hgains => exact .some ⟨e, he, hd, hd', hgains⟩

/-- What is described are the alternatives that are no nulls, in order. Nulls that are moved,
repeated, added or left out make a difference only if there is one on one side and none on the
other. Then each alternative keeps its descriptor but for the flags. -/
theorem normalize_union_of_withoutNulls_eq {es fs : List Expr}
    (h : withoutNulls es = withoutNulls fs) :
    (union es).normalize.value =
      (withoutNulls es).filterMap (fun e => (e.describe (es.any isNull)).value) ∧
    (es.any isNull = fs.any isNull →
      (union es).normalize.value = (union fs).normalize.value) ∧
    (es.any isNull = false → fs.any isNull = true →
      List.Forall₂ (fun d d' => ∃ e ∈ withoutNulls es,
          (e.describe false).value = some d ∧ (e.describe true).value = some d' ∧
            e.GainsNull d d')
        (union es).normalize.value (union fs).normalize.value) := by
  refine ⟨value_normalize_union es, fun hnull => ?_, fun hes hfs => ?_⟩
  · rw [value_normalize_union, value_normalize_union, describeEach, describeEach, h, hnull]
  · rw [value_normalize_union, value_normalize_union, describeEach, describeEach, ← h, hes, hfs]
    exact forall₂_describe fun e he => (mem_withoutNulls.mp he).2

/-- A null between an array of arrays and a generic reaches the innermost elements of the one and
only the container of the other. Two more nulls add nothing. -/
theorem normalize_union_nested_array :
    let array : Expr := named "int[][]"
    let generic : Expr := generic "Box" defaultKey (named "int[]")
    withoutNulls [array, named "mixed", generic] =
        withoutNulls [array, null, named "mixed", generic] ∧
      (union [array, named "mixed", generic]).normalize.value.map Descriptor.render =
        ["array<int, array<int, int>>", "Box<mixed, array<int, int>>"] ∧
      (union [array, null, named "mixed", generic]).normalize.value.map Descriptor.render =
        ["?array<int, ?array<int, ?int>>", "?Box<mixed, array<int, int>>"] ∧
      List.Forall₂ (fun d d' => ∃ e ∈ [array, named "mixed", generic],
          (e.describe false).value = some d ∧ (e.describe true).value = some d' ∧
            e.GainsNull d d')
        (union [array, named "mixed", generic]).normalize.value
        (union [array, null, named "mixed", generic]).normalize.value ∧
      (union [array, null, named "mixed", generic]).normalize.value =
        (union [null, array, named "mixed", null, generic, null]).normalize.value := by
  intro array generic
  have hadded : withoutNulls [array, named "mixed", generic] =
      withoutNulls [array, null, named "mixed", generic] := by decide
  have hmoved : withoutNulls [array, null, named "mixed", generic] =
      withoutNulls [null, array, named "mixed", null, generic, null] := by decide
  exact ⟨hadded, by decide, by decide,
    (normalize_union_of_withoutNulls_eq hadded).2.2 (by decide) (by decide),
    (normalize_union_of_withoutNulls_eq hmoved).2.1 (by decide)⟩

end Expr

end TypeAnnotation
