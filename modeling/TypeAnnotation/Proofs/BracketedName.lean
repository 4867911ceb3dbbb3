import Mathlib.Logic.Function.Iterate
import TypeAnnotation.Proofs.Losses

/-! # Names with bracket pairs

Every name is a base with bracket pairs after it, in one way. Each pair makes an array of what
stands before it, so that a name is described by its base inside as many arrays. A base that tells
nothing of the elements leaves the innermost array open.
-/
namespace TypeAnnotation
open TypeAnnotation.Expr (bracketed)

/-! ## The base of a name -/

namespace Name

/-- The name is the base with so many bracket pairs after it, and there is none before these. -/
structure Splits (name base : String) (depth : Nat) : Prop where
  eq_bracketed : name = bracketed base depth
  not_suffix : ¬ "[]".toList <:+ base.toList

theorem suffix_bracketed (name : String) (depth : Nat) :
    "[]".toList <:+ (bracketed name (depth + 1)).toList := by
  rw [bracketed, String.toList_append]
  exact List.suffix_append _ _

theorem exists_splits (name : String) : ∃ base depth, Splits name base depth := by
  -- What is before the last pair is a shorter name.
  induction hn : name.length using Nat.strongRecOn generalizing name with
  | ind n ih =>
    by_cases hs : "[]".toList <:+ name.toList
    · obtain ⟨before, hbefore⟩ := hs
      have hname : name = String.ofList before ++ "[]" := by
        rw [← String.toList_inj, String.toList_append, String.toList_ofList, hbefore]
      have hshorter : (String.ofList before).length < n := by
        rw [← hn, hname, String.length_append]
        exact Nat.lt_add_of_pos_right (by decide)
      obtain ⟨base, depth, hsplits⟩ := ih _ hshorter _ rfl
      refine ⟨base, depth + 1, ?_, hsplits.not_suffix⟩
      rw [hname, hsplits.eq_bracketed, bracketed]
    · exact ⟨name, 0, rfl, hs⟩

theorem eq_of_bracketed_eq {base base' : String} {depth depth' : Nat}
    (h : ¬ "[]".toList <:+ base.toList) (h' : ¬ "[]".toList <:+ base'.toList)
    (heq : bracketed base depth = bracketed base' depth') : base = base' ∧ depth = depth' := by
  induction depth generalizing depth' with
  | zero =>
    cases depth' with
    | zero => exact ⟨heq, rfl⟩
    | succ depth' =>
      have hbase : base = bracketed base' (depth' + 1) := heq
      exact absurd (hbase ▸ suffix_bracketed base' depth') h
  | succ depth ih =>
    cases depth' with
    | zero =>
      have hbase : bracketed base (depth + 1) = base' := heq
      exact absurd (hbase ▸ suffix_bracketed base depth) h'
    | succ depth' =>
      rw [bracketed, bracketed, String.append_left_inj] at heq
      obtain ⟨hbase, hdepth⟩ := ih heq
      exact ⟨hbase, congrArg Nat.succ hdepth⟩

theorem existsUnique_splits (name : String) :
    ∃! split : String × Nat, Splits name split.1 split.2 := by
  obtain ⟨base, depth, h⟩ := exists_splits name
  refine ⟨(base, depth), h, fun split hs => ?_⟩
  obtain ⟨hbase, hdepth⟩ := eq_of_bracketed_eq hs.not_suffix h.not_suffix
    (hs.eq_bracketed.symm.trans h.eq_bracketed)
  exact Prod.ext hbase hdepth

abbrev wildcards : List String := ["", "mixed", "array"]

theorem bracketed_not_mem_wildcards (name : String) (depth : Nat) :
    bracketed name (depth + 1) ∉ wildcards := by
  have hnone : ∀ wildcard ∈ wildcards, ¬ "[]".toList <:+ wildcard.toList := by decide
  exact fun hmem => hnone _ hmem (suffix_bracketed name depth)

theorem canonical_mem_wildcards_iff (name : String) :
    canonical name ∈ wildcards ↔ name ∈ wildcards := canonical_mem_iff (by decide) name

end Name

/-! ## Arrays around what is described -/

namespace Descriptor
open Name

/-- A name that tells a type tells one inside of any number of arrays. -/
theorem ofName?_bracketed {name : String} (h : name ∉ wildcards) (depth : Nat) (nullable : Bool) :
    ofName? (bracketed name depth) nullable =
      (ofName? name nullable).map (arrayOf nullable)^[depth] := by
  induction depth with
  | zero => rw [bracketed, Function.iterate_zero, Option.map_id, id]
  | succ depth ih =>
    have hinner : bracketed name depth ∉ wildcards := by
      cases depth with
      | zero => exact h
      | succ depth => exact bracketed_not_mem_wildcards name depth
    rw [bracketed, ofName?_append_brackets, if_neg hinner, ih, Option.map_map,
      Function.iterate_succ']

theorem ofName?_bracketed_of_wildcard {base : String} (h : base ∈ wildcards) (depth : Nat)
    (nullable : Bool) :
    ofName? (bracketed base (depth + 1)) nullable =
      some ((arrayOf nullable)^[depth] (anyArray nullable)) := by
  have harray : ofName? (base ++ "[]") nullable = some (anyArray nullable) :=
    (ofName?_append_brackets base nullable).trans (if_pos h)
  have hbase : base ++ "[]" ∉ wildcards := bracketed_not_mem_wildcards base 0
  rw [← Expr.bracketed_brackets, ofName?_bracketed hbase, harray, Option.map_some]

theorem ofName?_bracketed_of_base {base : String} (hs : ¬ "[]".toList <:+ base.toList)
    (h : base ∉ wildcards) (depth : Nat) (nullable : Bool) :
    ofName? (bracketed base depth) nullable =
      some ((arrayOf nullable)^[depth] (ofName nullable (canonical base))) := by
  have hcanonical := mt (canonical_mem_wildcards_iff base).mp h
  have huntold : canonical base ∉ ["", "mixed"] :=
    fun hu => hcanonical (List.mem_append_left ["array"] hu)
  have harray : canonical base ≠ "array" := fun ha => hcanonical (by simp [ha])
  have hbase : ofName? base nullable = some (ofName nullable (canonical base)) := by
    rw [ofName?_of_not_suffix hs, if_neg huntold, if_neg harray]
  rw [ofName?_bracketed h, hbase, Option.map_some]

theorem ofName?_array (nullable : Bool) : ofName? "array" nullable = some (anyArray nullable) :=
  ofName?_of_not_suffix (by decide) nullable

/-- What a name is described as, if it is. The name `array` and an array of anything are one. -/
theorem ofName?_cases {name base : String} {depth : Nat} {nullable : Bool} {d : Descriptor}
    (hs : Splits name base depth) (hd : ofName? name nullable = some d) :
    base ∈ wildcards ∧ d = (arrayOf nullable)^[max depth 1 - 1] (anyArray nullable) ∨
      base ∉ wildcards ∧ d = (arrayOf nullable)^[depth] (ofName nullable (canonical base)) := by
  obtain ⟨rfl, hplain⟩ := hs
  by_cases hbase : base ∈ wildcards
  · refine .inl ⟨hbase, ?_⟩
    cases depth with
    | zero =>
      have htold : ¬ (base = "" ∨ base = "mixed") := by
        rw [← ofName?_eq_none_iff base nullable]
        exact fun hnone => Option.some_ne_none d (hd.symm.trans hnone)
      obtain rfl : base = "array" := by simpa [not_or.mp htold] using hbase
      exact Option.some.inj (hd.symm.trans (ofName?_array nullable))
    | succ depth =>
      rw [ofName?_bracketed_of_wildcard hbase] at hd
      have hdepth : max (depth + 1) 1 - 1 = depth := by omega
      rw [hdepth]
      exact (Option.some.inj hd).symm
  · rw [ofName?_bracketed_of_base hplain hbase] at hd
    exact .inr ⟨hbase, (Option.some.inj hd).symm⟩

/-- The two slots of a descriptor are both filled or both empty, at every depth. -/
def SlotsTogether (d : Descriptor) : Prop := ∀ p, d.Part p → p.key.isSome = p.value.isSome

theorem SlotsTogether.arrayOf {nullable : Bool} {d : Descriptor} (h : SlotsTogether d) :
    SlotsTogether (arrayOf nullable d) := by
  refine forall_part rfl (fun k hk => ?_) fun v hv => ?_
  · obtain rfl := Option.some.inj hk
    exact forall_part rfl nofun nofun
  · exact Option.some.inj hv ▸ h

theorem slotsTogether_of_ofName? {name : String} {nullable : Bool} {d : Descriptor}
    (hd : ofName? name nullable = some d) : SlotsTogether d := by
  have harrays : ∀ depth {inner : Descriptor}, SlotsTogether inner →
      SlotsTogether ((Descriptor.arrayOf nullable)^[depth] inner) := by
    intro depth inner h
    exact Function.Iterate.rec SlotsTogether h (fun _ => SlotsTogether.arrayOf) depth
  obtain ⟨base, depth, hs⟩ := exists_splits name
  rcases ofName?_cases hs hd with ⟨-, rfl⟩ | ⟨-, rfl⟩
  · exact harrays _ (forall_part rfl nofun nofun)
  · exact harrays _ (forall_part rfl nofun nofun)

end Descriptor

/-! ## What names are described as -/

namespace Expr
open Descriptor Name

/-- A name has one base and one number of bracket pairs. It has no descriptor only if it is empty or
`mixed`. A base that tells a type is described inside as many arrays as there are pairs. One that
tells none takes the first pair for an array of anything, and `array` is such an array by itself. So
no array in what is described has one slot filled and the other empty. -/
theorem describe_of_splits :
    (∀ name : String, ∃! split : String × Nat, Splits name split.1 split.2) ∧
    ∀ {name base : String} {depth : Nat}, Splits name base depth → ∀ nullable : Bool,
      (((named name).describe nullable).value = none ↔ depth = 0 ∧ base ∈ ["", "mixed"]) ∧
      (base = "array" → depth = 0 →
        ((named name).describe nullable).value = some (anyArray nullable)) ∧
      (base ∈ wildcards → 1 ≤ depth → ((named name).describe nullable).value =
        some ((Descriptor.arrayOf nullable)^[depth - 1] (anyArray nullable))) ∧
      (base ∉ wildcards → ((named name).describe nullable).value =
        some ((Descriptor.arrayOf nullable)^[depth]
          (Descriptor.ofName nullable (canonical base)))) ∧
      ∀ d ∈ ((named name).describe nullable).value, ∀ p, d.Part p →
        p.key.isSome = p.value.isSome := by
  refine ⟨existsUnique_splits, ?_⟩
  rintro name base depth ⟨rfl, hs⟩ nullable
  have hvalue : ((named (bracketed base depth)).describe nullable).value =
      ofName? (bracketed base depth) nullable := rfl
  rw [hvalue]
  refine ⟨?_, ?_, fun hbase hdepth => ?_, fun hbase => ?_, fun d hd => slotsTogether_of_ofName? hd⟩
  · rw [ofName?_eq_none_iff]
    cases depth with
    | zero => simp [bracketed]
    | succ depth =>
      have hname := bracketed_not_mem_wildcards base depth
      refine iff_of_false (fun h => hname ?_) (fun h => absurd h.1 depth.succ_ne_zero)
      simpa [or_assoc] using Or.inl h
  · rintro rfl rfl
    exact ofName?_array nullable
  · obtain ⟨depth, rfl⟩ := Nat.exists_eq_succ_of_ne_zero (Nat.ne_of_gt hdepth)
    exact ofName?_bracketed_of_wildcard hbase depth nullable
  · exact ofName?_bracketed_of_base hs hbase depth nullable

/-- A synonym inside two arrays, and two bracket pairs after a base that tells nothing. -/
theorem describe_of_splits_void :
    (Splits "void[][]" "void" 2 ∧ ((named "void[][]").describe true).value =
      some (Descriptor.arrayOf true (Descriptor.arrayOf true (Descriptor.ofName true "null")))) ∧
    Splits "mixed[][]" "mixed" 2 ∧ ((named "mixed[][]").describe false).value =
      some (Descriptor.arrayOf false (anyArray false)) := by
  have hvoid : Splits "void[][]" "void" 2 := ⟨rfl, by decide⟩
  have hmixed : Splits "mixed[][]" "mixed" 2 := ⟨rfl, by decide⟩
  obtain ⟨-, -, -, hleaf, -⟩ := describe_of_splits.2 hvoid true
  obtain ⟨-, -, hopen, -, -⟩ := describe_of_splits.2 hmixed false
  exact ⟨⟨hvoid, hleaf (by decide)⟩, hmixed, hopen (by decide) (by decide)⟩

end Expr

end TypeAnnotation
