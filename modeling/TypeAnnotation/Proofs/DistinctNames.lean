import TypeAnnotation.Proofs.BracketedName
import TypeAnnotation.Proofs.ClassNames
import TypeAnnotation.Proofs.PrintedDescriptor

/-! # Names that are told apart

Two names are described alike only if they are meant to be: with equally many bracket pairs after
synonyms, or after names of one class with and without a namespace separator, or in arrays of
anything that are equally deep.
-/
namespace TypeAnnotation

namespace Name

/-- The one name is the other with a namespace separator in front, and both are names of the class
that the other is called by. -/
structure Qualifies (long short : String) : Prop where
  eq_append : long = "\\" ++ short
  ne_kind : ∀ kind : Kind, kind.name ≠ short
  not_qualified : short.toList.head? ≠ some '\\'

theorem unqualified_separator (name : String) : unqualified ("\\" ++ name) = name := by
  have hhead : ("\\" ++ name).toList = '\\' :: name.toList := by rw [String.toList_append]; rfl
  rw [unqualified, hhead]
  exact String.ofList_toList

theorem classify_of_ne_kind {name : String} (h : ∀ kind : Kind, kind.name ≠ name) :
    classify name = (.object, some (unqualified name)) := by
  rw [classify, Kind.ofName?_eq_none_iff.mpr h]

theorem separator_ne_kind (name : String) (kind : Kind) : kind.name ≠ "\\" ++ name := by
  intro h
  have hhead := congrArg (fun n => n.toList.head?) h
  have hnone : kind.name.toList.head? ≠ some '\\' := by cases kind <;> decide
  exact hnone (by simpa using hhead)

theorem Qualifies.classify_eq {long short : String} (h : Qualifies long short) :
    classify long = classify short := by
  obtain ⟨rfl, hkind, hplain⟩ := h
  rw [classify_of_ne_kind hkind, classify_of_ne_kind (separator_ne_kind short),
    unqualified_separator, unqualified_eq_self hplain]

/-- Names are of the same kind and class only if they are the same up to a namespace separator. -/
theorem classify_eq_iff (m n : String) :
    classify m = classify n ↔ m = n ∨ Qualifies m n ∨ Qualifies n m := by
  constructor
  · intro h
    cases hm : Kind.ofName? m with
    | some kind =>
      have hclassify : classify n = (kind, none) := by rw [← h, classify, hm]
      cases hn : Kind.ofName? n with
      | some kind' =>
        rw [classify, hn] at hclassify
        obtain rfl := (Prod.mk.inj hclassify).1
        exact .inl ((Kind.eq_name_of_ofName? hm).trans (Kind.eq_name_of_ofName? hn).symm)
      | none =>
        rw [classify, hn] at hclassify
        exact absurd (Prod.mk.inj hclassify).2 (Option.some_ne_none _)
    | none =>
      have hclass : (classify m).2 = some (unqualified m) := by rw [classify, hm]
      -- Each name is the class that both are called by, with a separator in front or without.
      obtain ⟨hkind, hm⟩ := namesClass_of_classify hclass
      obtain ⟨hkind', hn⟩ := namesClass_of_classify (h ▸ hclass)
      rcases hm with hm | ⟨hm, hplain⟩
      · rcases hn with hn | ⟨hn, hplain'⟩
        · exact .inl (hm.trans hn.symm)
        · exact .inr (.inl ⟨hn ▸ hm, hkind', hplain'⟩)
      · rcases hn with hn | ⟨hn, hplain'⟩
        · exact .inr (.inr ⟨hm ▸ hn, hkind, hplain⟩)
        · exact .inl (hm.trans hn.symm)
  · rintro (rfl | h | h)
    · rfl
    · exact h.classify_eq
    · exact h.classify_eq.symm

end Name

namespace Descriptor

variable {nullable : Bool}

theorem arrayOf_inj {c d : Descriptor} : arrayOf nullable c = arrayOf nullable d ↔ c = d := by
  constructor
  · intro h
    exact Option.some.inj (congrArg Descriptor.value h)
  · rintro rfl
    rfl

theorem iterate_arrayOf_succ_ne (c : Descriptor) {d : Descriptor} (hd : d.value = none) (i : Nat) :
    (arrayOf nullable)^[i + 1] c ≠ d := by
  intro h
  have hvalue := congrArg Descriptor.value h
  rw [Function.iterate_succ_apply', hd] at hvalue
  cases hvalue

theorem iterate_arrayOf_eq_iff {c d : Descriptor} (hc : c.value = none) (hd : d.value = none)
    (i j : Nat) : (arrayOf nullable)^[i] c = (arrayOf nullable)^[j] d ↔ i = j ∧ c = d := by
  induction i generalizing j with
  | zero =>
    cases j with
    | zero => simp
    | succ j =>
      refine iff_of_false (fun h => ?_) (fun h => absurd h.1 j.succ_ne_zero.symm)
      exact iterate_arrayOf_succ_ne d hc j h.symm
  | succ i ih =>
    cases j with
    | zero =>
      refine iff_of_false (fun h => ?_) (fun h => absurd h.1 i.succ_ne_zero)
      exact iterate_arrayOf_succ_ne c hd i h
    | succ j =>
      rw [Function.iterate_succ_apply', Function.iterate_succ_apply', arrayOf_inj, ih,
        Nat.succ_inj]

theorem ofName_eq_iff (m n : String) :
    ofName nullable m = ofName nullable n ↔ Name.classify m = Name.classify n := by
  constructor
  · intro h
    simp only [ofName, mk.injEq] at h
    exact Prod.ext h.1 h.2.2.1
  · intro h
    rw [ofName, ofName, h]

theorem anyArray_ne_ofName (nullable : Bool) (name : String) :
    anyArray nullable ≠ ofName nullable name :=
  fun h => Bool.noConfusion (congrArg Descriptor.isCollection h)

end Descriptor

namespace Expr
open Descriptor Name

/-- Names that have descriptors have the same one only in two cases. Both are arrays of anything,
equally deep, where `array` is one by itself. Or neither is, they have equally many bracket pairs,
and their bases are the same up to synonyms and a namespace separator in front of a class. -/
theorem describe_eq_iff_of_splits {x y a b : String} {i j : Nat} {nullable : Bool}
    {d e : Descriptor} (hx : Splits x a i) (hy : Splits y b j)
    (hd : ((named x).describe nullable).value = some d)
    (he : ((named y).describe nullable).value = some e) :
    d = e ↔
      (a ∈ wildcards ∧ b ∈ wildcards ∧ max i 1 = max j 1) ∨
      (a ∉ wildcards ∧ b ∉ wildcards ∧ i = j ∧
        (canonical a = canonical b ∨ Qualifies (canonical a) (canonical b) ∨
          Qualifies (canonical b) (canonical a))) := by
  rcases ofName?_cases hx hd with ⟨ha, rfl⟩ | ⟨ha, rfl⟩
  · rcases ofName?_cases hy he with ⟨hb, rfl⟩ | ⟨hb, rfl⟩
    · rw [iterate_arrayOf_eq_iff rfl rfl]
      have hdepths : max i 1 - 1 = max j 1 - 1 ↔ max i 1 = max j 1 := by omega
      simp [ha, hb, hdepths]
    · rw [iterate_arrayOf_eq_iff rfl rfl]
      have hne := anyArray_ne_ofName nullable (canonical b)
      simp [ha, hb, hne]
  · rcases ofName?_cases hy he with ⟨hb, rfl⟩ | ⟨hb, rfl⟩
    · rw [iterate_arrayOf_eq_iff rfl rfl]
      have hne := anyArray_ne_ofName nullable (canonical a)
      simp [ha, hb, hne.symm]
    · rw [iterate_arrayOf_eq_iff rfl rfl, ofName_eq_iff, classify_eq_iff]
      simp [ha, hb]

/-- A class with and without a separator in front is one, also in an array. The separator before the
name of a kind makes a class of it, and `array` is not told apart from an array of `mixed`. -/
theorem describe_eq_iff_of_splits_foos :
    Splits "\\Foo[]" "\\Foo" 1 ∧ Splits "Foo[]" "Foo" 1 ∧ Splits "\\int" "\\int" 0 ∧
      Splits "integer" "integer" 0 ∧ Splits "array" "array" 0 ∧ Splits "mixed[]" "mixed" 1 ∧
      (∃ d e, ((named "\\Foo[]").describe true).value = some d ∧
        ((named "Foo[]").describe true).value = some e ∧ d = e) ∧
      (∃ d e, ((named "\\int").describe true).value = some d ∧
        ((named "integer").describe true).value = some e ∧ d ≠ e) ∧
      ∃ d e, ((named "array").describe true).value = some d ∧
        ((named "mixed[]").describe true).value = some e ∧ d = e := by
  have hfoos : Splits "\\Foo[]" "\\Foo" 1 := ⟨rfl, by decide⟩
  have hfoos' : Splits "Foo[]" "Foo" 1 := ⟨rfl, by decide⟩
  have hint : Splits "\\int" "\\int" 0 := ⟨rfl, by decide⟩
  have hinteger : Splits "integer" "integer" 0 := ⟨rfl, by decide⟩
  have harray : Splits "array" "array" 0 := ⟨rfl, by decide⟩
  have hmixed : Splits "mixed[]" "mixed" 1 := ⟨rfl, by decide⟩
  have hqualifies : Qualifies "\\Foo" "Foo" := ⟨rfl, fun kind => by cases kind <;> decide, by decide⟩
  refine ⟨hfoos, hfoos', hint, hinteger, harray, hmixed, ⟨_, _, rfl, rfl, ?_⟩, ⟨_, _, rfl, rfl, ?_⟩,
    ⟨_, _, rfl, rfl, ?_⟩⟩
  · exact (describe_eq_iff_of_splits hfoos hfoos' rfl rfl).mpr
      (.inr ⟨by decide, by decide, rfl, .inr (.inl hqualifies)⟩)
  · rw [Ne, describe_eq_iff_of_splits hint hinteger rfl rfl]
    rintro (⟨h, -⟩ | ⟨-, -, -, h | h | h⟩)
    · exact absurd h (by decide)
    · exact absurd h (by decide)
    · exact h.ne_kind .int rfl
    · exact absurd h.eq_append (by decide)
  · exact (describe_eq_iff_of_splits harray hmixed rfl rfl).mpr (.inl ⟨by decide, by decide, rfl⟩)

end Expr

end TypeAnnotation
