import TypeAnnotation.Proofs.NullFold

/-! # Well-formed descriptors

Whatever an expression is, its descriptors are put together in a few ways only. At every depth a
class goes with an object, slots go with a collection, and an array is a collection. Without a null
anywhere in the expression none of them is nullable.
-/
namespace TypeAnnotation

/-! ## Parts -/

namespace Expr

/-- What holds of the parts that an expression is made of holds of the expression. -/
@[elab_as_elim, induction_eliminator]
theorem induction {P : Expr → Prop} (named : ∀ name, P (named name)) (null : P null)
    (union : ∀ alternatives, (∀ e ∈ alternatives, P e) → P (union alternatives))
    (generic : ∀ name key value, P key → P value → P (generic name key value))
    (foreign : ∀ text, P (foreign text)) : ∀ e, P e
  | .named name => named name
  | .null => null
  | .union alternatives =>
    union alternatives fun e _ => induction named null union generic foreign e
  | .generic name key value =>
    generic name key value (induction named null union generic foreign key)
      (induction named null union generic foreign value)
  | .foreign text => foreign text

/-- An expression itself and what it is made of, at any depth. -/
inductive Part : Expr → Expr → Prop
  | self (e : Expr) : Part e e
  | alternative {es : List Expr} {e p : Expr} (he : e ∈ es) (h : Part e p) : Part (union es) p
  | key {n : String} {k v p : Expr} (h : Part k p) : Part (generic n k v) p
  | value {n : String} {k v p : Expr} (h : Part v p) : Part (generic n k v) p

end Expr

namespace Descriptor

/-- A descriptor itself and those in its slots, at any depth. -/
inductive Part : Descriptor → Descriptor → Prop
  | self (d : Descriptor) : Part d d
  | key {d k p : Descriptor} (hk : d.key = some k) (h : Part k p) : Part d p
  | value {d v p : Descriptor} (hv : d.value = some v) (h : Part v p) : Part d p

theorem Part.trans {d p q : Descriptor} (hp : Part d p) (hq : Part p q) : Part d q := by
  induction hp with
  | self => exact hq
  | key hk _ ih => exact .key hk (ih hq)
  | value hv _ ih => exact .value hv (ih hq)

/-- What holds of a descriptor and of all parts of its slots holds of all its parts. -/
theorem forall_part {P : Descriptor → Prop} {d : Descriptor} (hself : P d)
    (hkey : ∀ k ∈ d.key, ∀ p, Part k p → P p) (hvalue : ∀ v ∈ d.value, ∀ p, Part v p → P p) :
    ∀ p, Part d p → P p := by
  intro p hp
  cases hp with
  | self => exact hself
  | key hk hp => exact hkey _ hk p hp
  | value hv hp => exact hvalue _ hv p hp

/-- Only objects have a class, only collections have slots, and arrays are collections. -/
structure WellFormed (d : Descriptor) : Prop where
  kind_of_className : d.className ≠ none → d.kind = .object
  slots_eq_none : d.isCollection = false → d.key = none ∧ d.value = none
  isCollection_of_kind : d.kind = .array → d.isCollection = true

/-! ## How descriptors are built -/

/-- The ways in which descriptors are put together, nullable ones only if there are nulls. -/
inductive Built (nulls : Bool) : Descriptor → Prop
  | ofName {flag : Bool} {name : String} (hflag : flag ≤ nulls) (hname : name ≠ "array") :
    Built nulls (ofName flag name)
  | anyArray {flag : Bool} (hflag : flag ≤ nulls) : Built nulls (anyArray flag)
  | arrayOf {flag : Bool} {d : Descriptor} (hflag : flag ≤ nulls) (h : Built nulls d) :
    Built nulls (arrayOf flag d)
  | collection {flag : Bool} {name : String} {key value : Option Descriptor}
    (hflag : flag ≤ nulls) (hkey : ∀ k ∈ key, Built nulls k) (hvalue : ∀ v ∈ value, Built nulls v) :
    Built nulls { ofName flag name with isCollection := true, key, value }

theorem kind_of_className_ofName (flag : Bool) (name : String)
    (h : (ofName flag name).className ≠ none) : (ofName flag name).kind = .object := by
  simp only [ofName, Name.classify] at h ⊢
  cases hk : Kind.ofName? name with
  | none => rfl
  | some kind =>
    rw [hk] at h
    exact absurd rfl h

theorem kind_ofName_ne_array {flag : Bool} {name : String} (h : name ≠ "array") :
    (ofName flag name).kind ≠ .array := by
  simp only [ofName, Name.classify]
  cases hk : Kind.ofName? name with
  | none => exact nofun
  | some kind =>
    rintro rfl
    exact h (Kind.eq_name_of_ofName? hk)

namespace Built
variable {nulls : Bool} {d p : Descriptor}

/-- The key type of an array is built like any other. -/
theorem int : Built nulls { kind := .int } :=
  (ofName (Bool.false_le nulls) (by decide) : Built nulls (Descriptor.ofName false "int"))

theorem of_key {k : Descriptor} (h : Built nulls d) (hk : d.key = some k) : Built nulls k := by
  cases h with
  | ofName | anyArray => cases hk
  | arrayOf hflag h => exact Option.some.inj hk ▸ int
  | collection hflag hkey hvalue => exact hkey k hk

theorem of_value {v : Descriptor} (h : Built nulls d) (hv : d.value = some v) : Built nulls v := by
  cases h with
  | ofName | anyArray => cases hv
  | arrayOf hflag h => exact Option.some.inj hv ▸ h
  | collection hflag hkey hvalue => exact hvalue v hv

theorem of_part (h : Built nulls d) (hp : d.Part p) : Built nulls p := by
  induction hp with
  | self => exact h
  | key hk _ ih => exact ih (h.of_key hk)
  | value hv _ ih => exact ih (h.of_value hv)

theorem wellFormed (h : Built nulls d) : d.WellFormed := by
  cases h with
  | ofName hflag hname =>
    exact ⟨kind_of_className_ofName _ _, fun _ => ⟨rfl, rfl⟩,
      fun hk => absurd hk (kind_ofName_ne_array hname)⟩
  | anyArray | arrayOf => exact ⟨nofun, nofun, fun _ => rfl⟩
  | @collection flag name =>
    exact ⟨kind_of_className_ofName flag name, nofun, fun _ => rfl⟩

theorem nullable_le (h : Built nulls d) : d.nullable ≤ nulls := by
  cases h <;> assumption

theorem not_nullable (h : Built false d) : d.nullable = false := by
  cases hd : d.nullable with
  | false => rfl
  | true => exact absurd (h.nullable_le hd) nofun

end Built

theorem built_ofName? {nulls flag : Bool} {name : String} (hflag : flag ≤ nulls) :
    ∀ d ∈ ofName? name flag, Built nulls d := by
  rw [ofName?]
  generalize name.toList.reverse = cs
  fun_induction ofReversedName? cs flag with
  | case1 => exact fun d hd => Option.some.inj hd ▸ .anyArray hflag
  | case2 element flag h ih =>
    intro d hd
    obtain ⟨v, hv, rfl⟩ := Option.map_eq_some_iff.mp hd
    exact .arrayOf hflag (ih hflag v hv)
  | case3 =>
    intro d hd
    cases hd
  | case4 => exact fun d hd => Option.some.inj hd ▸ .anyArray hflag
  | case5 reversed flag hpair name hempty harray =>
    exact fun d hd => Option.some.inj hd ▸ .ofName hflag harray

end Descriptor

theorem Slot.eq_singleton_of_fill {slot : Slot} {container : String} {found : List Descriptor}
    {d : Descriptor} (h : d ∈ (slot.fill container found).value) : found = [d] := by
  match found with
  | [] => cases h
  | [a] => rw [Option.some.inj h]
  | _ :: _ :: _ => cases h

namespace Expr
open Descriptor

theorem any_isNull_iff {es : List Expr} : es.any isNull = true ↔ null ∈ es := by
  rw [List.any_eq_true]
  constructor
  · rintro ⟨e, he, hn⟩
    cases e with
    | null => exact he
    | _ => cases hn
  · exact fun h => ⟨null, h, rfl⟩

theorem mem_describeEach {flag : Bool} {es : List Expr} {d : Descriptor} :
    d ∈ describeEach flag es ↔
      ∃ e ∈ es, e.isNull = false ∧ (e.describe flag).value = some d := by
  simp only [describeEach, List.mem_filterMap, mem_withoutNulls, and_assoc]

/-- The descriptors of an expression are built in these ways. -/
theorem built_describe (nulls : Bool) (e : Expr) (h : e.Part null → nulls = true) :
    (∀ d ∈ e.normalize.value, Built nulls d) ∧
      ∀ flag, flag ≤ nulls → ∀ d ∈ (e.describe flag).value, Built nulls d := by
  induction e with
  | named name =>
    refine ⟨fun d hd => ?_, fun flag => built_ofName?⟩
    exact built_ofName? (Bool.false_le nulls) d (Option.mem_toList.mp hd)
  | null =>
    refine ⟨fun d hd => ?_, fun flag => built_ofName?⟩
    have hnulls : true ≤ nulls := fun _ => h (.self null)
    exact built_ofName? hnulls d (by simpa [normalize] using hd)
  | union es ih =>
    refine ⟨fun d hd => ?_, fun flag hflag d hd => by cases hd⟩
    have hnulls : es.any isNull ≤ nulls := by
      intro hany
      exact h (.alternative (any_isNull_iff.mp hany) (.self null))
    rw [value_normalize_union, mem_describeEach] at hd
    obtain ⟨e, he, -, hd⟩ := hd
    exact (ih e he fun hp => h (.alternative he hp)).2 _ hnulls d hd
  | generic name key value ihk ihv =>
    have hkey := (ihk fun hp => h (.key hp)).1
    have hvalue := (ihv fun hp => h (.value hp)).1
    have hgeneric : ∀ flag, flag ≤ nulls → ∀ d ∈ ((generic name key value).describe flag).value,
        Built nulls d := by
      intro flag hflag d hd
      obtain rfl := Option.some.inj hd
      refine .collection hflag (fun k hk => hkey k ?_) fun v hv => hvalue v ?_
      · simp [Slot.eq_singleton_of_fill hk]
      · simp [Slot.eq_singleton_of_fill hv]
    refine ⟨fun d hd => hgeneric false (Bool.false_le nulls) d ?_, hgeneric⟩
    rwa [normalize_eq_describe rfl, Logged.value_map, Option.mem_toList] at hd
  | foreign text =>
    refine ⟨fun d hd => ?_, fun flag hflag d hd => ?_⟩
    · cases hd
    · cases hd

theorem length_normalize_le_one {e : Expr} (h : e.isUnion = false) :
    e.normalize.value.length ≤ 1 := by
  rw [normalize_eq_describe h, Logged.value_map]
  cases (e.describe e.isNull).value <;> simp

/-- At every depth of the descriptors of an expression only objects have a class, only collections
have slots and arrays are collections. They are nullable only if there is a null somewhere. There
is one descriptor at most, and of a union one at most for each alternative that is no null; these
are all nullable or all not, depending on whether there is a null among the alternatives. -/
theorem normalize_wellFormed (e : Expr) :
    (∀ d ∈ e.normalize.value, ∀ p, d.Part p → p.WellFormed) ∧
    (∀ flag, ∀ d ∈ (e.describe flag).value, ∀ p, d.Part p → p.WellFormed) ∧
    (¬ e.Part null →
      (∀ d ∈ e.normalize.value, ∀ p, d.Part p → p.nullable = false) ∧
      ∀ d ∈ (e.describe false).value, ∀ p, d.Part p → p.nullable = false) ∧
    (e.isUnion = false → e.normalize.value.length ≤ 1) ∧
    ∀ es, e = union es →
      e.normalize.value.length ≤ (withoutNulls es).length ∧
      ∀ d ∈ e.normalize.value, d.nullable = true ↔ null ∈ es := by
  have hbuilt := built_describe true e fun _ => rfl
  refine ⟨fun d hd p hp => ((hbuilt.1 d hd).of_part hp).wellFormed,
    fun flag d hd p hp => ((hbuilt.2 flag (Bool.le_true flag) d hd).of_part hp).wellFormed,
    fun hnone => ?_, length_normalize_le_one, ?_⟩
  · have hplain := built_describe false e fun hp => absurd hp hnone
    refine ⟨fun d hd p hp => ?_, fun d hd p hp => ?_⟩
    · exact ((hplain.1 d hd).of_part hp).not_nullable
    · exact ((hplain.2 false (Bool.false_le false) d hd).of_part hp).not_nullable
  · rintro es rfl
    rw [value_normalize_union]
    refine ⟨List.length_filterMap_le _ _, fun d hd => ?_⟩
    rw [nullable_of_mem_describeEach hd, any_isNull_iff]

end Expr

end TypeAnnotation
