import TypeAnnotation.Proofs.DistinctNames

/-! # Other spellings of names

A kind may be called by a synonym, and a class by its name with a namespace separator in front.
Expressions that differ in no more than that, at any depth, have the same descriptors. The name of a
container has no synonyms.
-/
namespace TypeAnnotation

namespace Name

inductive Respells : String → String → Prop
  | synonym {a b : String} (h : (a, b) ∈ synonyms) : Respells a b
  | separator {a b : String} (h : Qualifies a b) (hne : b ≠ "") (hmixed : b ≠ "mixed")
    (hsynonym : ∀ synonym ∈ synonyms, synonym.1 ≠ b) : Respells a b

/-- Names with equally many bracket pairs after bases that are the same up to their spelling. -/
def Alike (m n : String) : Prop :=
  ∃ a b depth, Splits m a depth ∧ Splits n b depth ∧ (a = b ∨ Respells a b ∨ Respells b a)

theorem head?_separator (name : String) : ("\\" ++ name).toList.head? = some '\\' := by
  rw [String.toList_append]
  rfl

theorem canonical_separator (name : String) : canonical ("\\" ++ name) = "\\" ++ name := by
  apply canonical_eq_self
  intro synonym hs heq
  have hheads : ∀ synonym ∈ synonyms, synonym.1.toList.head? ≠ some '\\' := by decide
  apply hheads synonym hs
  rw [heq]
  exact head?_separator name

theorem separator_not_mem_wildcards (name : String) : "\\" ++ name ∉ wildcards := by
  intro hmem
  have hheads : ∀ wildcard ∈ wildcards, wildcard.toList.head? ≠ some '\\' := by decide
  exact hheads _ hmem (head?_separator name)

/-- Both spellings tell a type, and the same. -/
theorem Respells.same_type {a b : String} (h : Respells a b) :
    a ∉ wildcards ∧ b ∉ wildcards ∧ classify (canonical a) = classify (canonical b) := by
  cases h with
  | synonym h =>
    have htable : ∀ synonym ∈ synonyms, synonym.1 ∉ wildcards ∧ synonym.2 ∉ wildcards ∧
        canonical synonym.1 = canonical synonym.2 := by decide
    obtain ⟨ha, hb, hcanonical⟩ := htable _ h
    exact ⟨ha, hb, congrArg classify hcanonical⟩
  | separator h hne hmixed hsynonym =>
    have harray : b ≠ "array" := (h.ne_kind .array).symm
    have ha : canonical a = a := by
      rw [h.eq_append]
      exact canonical_separator b
    refine ⟨?_, by simp [hne, hmixed, harray], ?_⟩
    · rw [h.eq_append]
      exact separator_not_mem_wildcards b
    · rw [ha, canonical_eq_self hsynonym]
      exact h.classify_eq

end Name

namespace Descriptor
open Name

theorem ofName?_of_respells {a b : String} {depth : Nat} (h : Respells a b)
    (ha : ¬ "[]".toList <:+ a.toList) (hb : ¬ "[]".toList <:+ b.toList) (nullable : Bool) :
    ofName? (Expr.bracketed a depth) nullable = ofName? (Expr.bracketed b depth) nullable := by
  obtain ⟨hwa, hwb, hclassify⟩ := h.same_type
  rw [ofName?_bracketed_of_base ha hwa, ofName?_bracketed_of_base hb hwb,
    (ofName_eq_iff _ _).mpr hclassify]

theorem ofName?_of_alike {m n : String} (h : Alike m n) (nullable : Bool) :
    ofName? m nullable = ofName? n nullable := by
  obtain ⟨a, b, depth, ⟨rfl, ha⟩, ⟨rfl, hb⟩, rfl | h | h⟩ := h
  · rfl
  · exact ofName?_of_respells h ha hb nullable
  · exact (ofName?_of_respells h hb ha nullable).symm

end Descriptor

/-- What a slot is filled with does not depend on what the container is called. -/
theorem Slot.value_fill_congr (slot : Slot) (m n : String) (found : List Descriptor) :
    (slot.fill m found).value = (slot.fill n found).value := by
  match found with
  | [] | [_] | _ :: _ :: _ => rfl

namespace Expr
open Name

/-- Expressions of one shape whose names are pairwise the same up to their spelling. -/
inductive Respelled : Expr → Expr → Prop
  | named {m n : String} (h : Alike m n) : Respelled (named m) (named n)
  | null : Respelled null null
  | union {es fs : List Expr} (h : List.Forall₂ Respelled es fs) : Respelled (union es) (union fs)
  | generic {m n : String} {key key' value value' : Expr}
    (hn : m = n ∨ Qualifies m n ∨ Qualifies n m) (hk : Respelled key key')
    (hv : Respelled value value') : Respelled (generic m key value) (generic n key' value')
  | foreign (s t : String) : Respelled (foreign s) (foreign t)

structure SameDescriptors (e f : Expr) : Prop where
  isNull : e.isNull = f.isNull
  normalize : e.normalize.value = f.normalize.value
  describe : ∀ nullable, (e.describe nullable).value = (f.describe nullable).value

namespace SameDescriptors

theorem of_describe {e f : Expr} (he : e.isUnion = false) (hf : f.isUnion = false)
    (hnull : e.isNull = f.isNull)
    (h : ∀ nullable, (e.describe nullable).value = (f.describe nullable).value) :
    SameDescriptors e f := by
  refine ⟨hnull, ?_, h⟩
  rw [normalize_eq_describe he, normalize_eq_describe hf, Logged.value_map, Logged.value_map, hnull,
    h]

theorem describeEach_eq {es fs : List Expr} (h : List.Forall₂ SameDescriptors es fs)
    (nullable : Bool) : describeEach nullable es = describeEach nullable fs := by
  induction h with
  | nil => rfl
  | @cons e f es fs hef hrest ih =>
    have hhead : describeEach nullable [e] = describeEach nullable [f] := by
      cases hn : f.isNull with
      | true => simp [describeEach, withoutNulls, hef.isNull, hn]
      | false =>
        rw [describeEach_singleton (hef.isNull.trans hn), describeEach_singleton hn, hef.describe]
    calc
      describeEach nullable (e :: es) = describeEach nullable [e] ++ describeEach nullable es :=
        describeEach_append nullable [e] es
      _ = describeEach nullable [f] ++ describeEach nullable fs := by rw [hhead, ih]
      _ = describeEach nullable (f :: fs) := (describeEach_append nullable [f] fs).symm

theorem any_isNull_eq {es fs : List Expr} (h : List.Forall₂ SameDescriptors es fs) :
    es.any Expr.isNull = fs.any Expr.isNull := by
  induction h with
  | nil => rfl
  | cons hef hrest ih => rw [List.any_cons, List.any_cons, hef.isNull, ih]

theorem union {es fs : List Expr} (h : List.Forall₂ SameDescriptors es fs) :
    SameDescriptors (union es) (union fs) := by
  refine ⟨rfl, ?_, fun _ => rfl⟩
  rw [value_normalize_union, value_normalize_union, any_isNull_eq h, describeEach_eq h]

theorem generic {m n : String} {key key' value value' : Expr} (hn : classify m = classify n)
    (hk : SameDescriptors key key') (hv : SameDescriptors value value') :
    SameDescriptors (generic m key value) (generic n key' value') := by
  refine of_describe rfl rfl rfl fun nullable => ?_
  have hname : Descriptor.ofName nullable m = Descriptor.ofName nullable n :=
    (Descriptor.ofName_eq_iff m n).mpr hn
  simp only [Expr.describe, Descriptor.collection, Logged.value_map, Logged.value_bind,
    Logged.value_pure, hname, hk.normalize, hv.normalize, Slot.value_fill_congr _ m n]

end SameDescriptors

theorem Respelled.sameDescriptors {e f : Expr} (h : Respelled e f) : SameDescriptors e f := by
  -- The relation goes through lists, so the induction is on the one expression.
  induction e generalizing f with
  | named m =>
    cases h with
    | named h => exact .of_describe rfl rfl rfl (Descriptor.ofName?_of_alike h)
  | null =>
    cases h with
    | null => exact ⟨rfl, rfl, fun _ => rfl⟩
  | union es ih =>
    cases h with
    | union h =>
      refine .union ?_
      induction h with
      | nil => exact .nil
      | cons hef hrest ihrest =>
        have hrow := List.forall_mem_cons.mp ih
        exact .cons (hrow.1 hef) (ihrest hrow.2)
  | generic m key value ihk ihv =>
    cases h with
    | generic hn hk hv => exact .generic ((classify_eq_iff _ _).mpr hn) (ihk hk) (ihv hv)
  | foreign s =>
    cases h with
    | foreign => exact ⟨rfl, rfl, fun _ => rfl⟩

/-- Expressions whose names are pairwise the same up to their spelling, wherever they stand, have
the same descriptors, all together and as an alternative with or without a null beside it. -/
theorem normalize_eq_of_respelled {e f : Expr} (h : Respelled e f) :
    e.normalize.value = f.normalize.value ∧
      ∀ nullable, (e.describe nullable).value = (f.describe nullable).value := by
  have hsame := h.sameDescriptors
  exact ⟨hsame.normalize, hsame.describe⟩

/-- Synonyms in an array of arrays and in a slot, and separators before a container and a class,
with a null and an alternative that is dropped beside them. -/
theorem normalize_eq_of_respelled_map :
    let e := union [named "integer[][]", named "mixed", null,
      generic "\\Map" (named "boolean") (union [named "\\App\\Id[]", union [named "void"]])]
    let f := union [named "int[][]", named "mixed", null,
      generic "Map" (named "bool") (union [named "App\\Id[]", union [named "null"]])]
    Respelled e f ∧ e.normalize.value = f.normalize.value ∧
      (∀ nullable, (e.describe nullable).value = (f.describe nullable).value) ∧
      f.normalize.value.map Descriptor.render =
        ["?array<int, ?array<int, ?int>>", "?Map<bool, array<int, App\\Id>>"] := by
  intro e f
  have hint : Alike "integer[][]" "int[][]" :=
    ⟨"integer", "int", 2, ⟨rfl, by decide⟩, ⟨rfl, by decide⟩, .inr (.inl (.synonym (by decide)))⟩
  have hmixed : Alike "mixed" "mixed" :=
    ⟨"mixed", "mixed", 0, ⟨rfl, by decide⟩, ⟨rfl, by decide⟩, .inl rfl⟩
  have hbool : Alike "boolean" "bool" :=
    ⟨"boolean", "bool", 0, ⟨rfl, by decide⟩, ⟨rfl, by decide⟩, .inr (.inl (.synonym (by decide)))⟩
  have hvoid : Alike "void" "null" :=
    ⟨"void", "null", 0, ⟨rfl, by decide⟩, ⟨rfl, by decide⟩, .inr (.inl (.synonym (by decide)))⟩
  have hqualifies : Qualifies "\\App\\Id" "App\\Id" :=
    ⟨rfl, fun kind => by cases kind <;> decide, by decide⟩
  have hid : Alike "\\App\\Id[]" "App\\Id[]" :=
    ⟨"\\App\\Id", "App\\Id", 1, ⟨rfl, by decide⟩, ⟨rfl, by decide⟩,
      .inr (.inl (.separator hqualifies (by decide) (by decide) (by decide)))⟩
  have hmap : Qualifies "\\Map" "Map" := ⟨rfl, fun kind => by cases kind <;> decide, by decide⟩
  have hvalues : Respelled (union [named "\\App\\Id[]", union [named "void"]])
      (union [named "App\\Id[]", union [named "null"]]) :=
    .union (.cons (.named hid) (.cons (.union (.cons (.named hvoid) .nil)) .nil))
  have hgeneric := Respelled.generic (.inr (.inl hmap)) (.named hbool) hvalues
  have hrespelled : Respelled e f :=
    .union (.cons (.named hint) (.cons (.named hmixed) (.cons .null (.cons hgeneric .nil))))
  obtain ⟨hnormalize, hdescribe⟩ := normalize_eq_of_respelled hrespelled
  exact ⟨hrespelled, hnormalize, hdescribe, by decide⟩

end Expr

end TypeAnnotation
