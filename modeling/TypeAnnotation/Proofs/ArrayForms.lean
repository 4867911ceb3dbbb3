import TypeAnnotation.Proofs.BracketedName

/-! # Two ways to write an array

Bracket pairs belong to the name before them, or they make containers of the group before them. The
name is described by taking the pairs off its end, a container by what its slots are given. Both
come to the same, but for the nulls of the elements.
-/
namespace TypeAnnotation
open Token

namespace Expr
open Name

theorem describe_arrayOf {e : Expr} {d : Descriptor} (h : e.normalize = pure [d]) (nullable : Bool) :
    (arrayOf e).describe nullable = pure (some (Descriptor.arrayOf nullable d)) := by
  have hdescribe : (arrayOf e).describe nullable =
      some <$> Descriptor.collection "array" nullable (named "int").normalize e.normalize := rfl
  rw [hdescribe, h]
  rfl

/-- Arrays of what has one descriptor have one, in as many arrays, and nothing is noted. -/
theorem normalize_arrays {e : Expr} {d : Descriptor} (h : e.normalize = pure [d]) (depth : Nat) :
    (e.arrays depth).normalize = pure [(Descriptor.arrayOf false)^[depth] d] := by
  induction depth with
  | zero => exact h
  | succ depth ih =>
    have hdescribe := describe_arrayOf ih false
    rw [arrays, normalize_eq_describe rfl, Function.iterate_succ_apply']
    exact congrArg (Option.toList <$> ·) hdescribe

theorem normalize_named {name : String} {d : Descriptor}
    (h : Descriptor.ofName? name false = some d) : (named name).normalize = pure [d] := by
  rw [normalize, h]
  rfl

theorem IsTypeName.bracketed {name : String} (h : IsTypeName name) (depth : Nat) :
    IsTypeName (bracketed name depth) := by
  obtain ⟨hnull, base, first, rfl, hbase⟩ := h
  cases depth with
  | zero => exact ⟨hnull, base, first, rfl, hbase⟩
  | succ depth =>
    rw [bracketed_bracketed]
    refine isTypeName_bracketed (hbase.imp_right fun hempty => ⟨hempty.1, ?_⟩) nofun
    omega

theorem exists_ofName? {name : String} (h : name ∉ wildcards) (nullable : Bool) :
    ∃ d, Descriptor.ofName? name nullable = some d := by
  refine Option.ne_none_iff_exists'.mp fun hnone => h ?_
  have huntold := (Descriptor.ofName?_eq_none_iff name nullable).mp hnone
  simpa [or_assoc] using Or.inl huntold

theorem normalizeText_group {name : String} (hname : IsTypeName name) (h : name ∉ wildcards)
    (depth : Nat) :
    ∃ d, normalizeText (Expr.bracketed ("(" ++ name ++ ")") depth) = .ok (pure [d]) ∧
      normalizeText (Expr.bracketed name depth) = .ok (pure [d]) := by
  obtain ⟨d, hd⟩ := exists_ofName? h false
  have harrays := normalize_arrays (normalize_named hd) depth
  have hbrackets : Descriptor.ofName? (Expr.bracketed name depth) false =
      some ((Descriptor.arrayOf false)^[depth] d) := by
    rw [Descriptor.ofName?_bracketed h, hd, Option.map_some]
  refine ⟨(Descriptor.arrayOf false)^[depth] d, ?_, ?_⟩
  · rw [normalizeText_of_parse (parse_group (parse_typeName hname) depth), harrays]
  · rw [normalizeText_of_parse (parse_typeName (hname.bracketed depth)), normalize_named hbrackets]

/-- Bracket pairs that follow a name in parentheses are taken as if they followed the name. This
goes for names that tell a type, and for all others if there is a pair within the parentheses. A
name with one pair and the container that a pair makes of the name have the same fields, but for
the nulls of the value. -/
theorem arrays_of_name_or_group :
    (∀ {base : String} {i : Nat}, IsName base ∨ base = "" →
      1 ≤ i ∨ base ≠ "" ∧ base ≠ "mixed" ∧ base ≠ "array" ∧ Text.lower base ≠ "null" →
      ∀ j : Nat, ∃ d,
        normalizeText (bracketed ("(" ++ bracketed base i ++ ")") j) = .ok (pure [d]) ∧
        normalizeText (bracketed base (i + j)) = .ok (pure [d])) ∧
    ∀ {name : String}, name ∉ wildcards → ∀ nullable : Bool, ∃ d e,
      ((named (name ++ "[]")).describe nullable).value = some d ∧
      ((arrayOf (named name)).describe nullable).value = some e ∧
      d.value = ((named name).describe nullable).value ∧
      e.value = ((named name).describe false).value ∧
      d.value.isSome ∧ e.value.isSome ∧ { d with value := e.value } = e := by
  constructor
  · intro base i hbase htold j
    have hname : IsTypeName (bracketed base i) := by
      cases i with
      | zero =>
        have htells := htold.resolve_left (Nat.not_succ_le_zero 0)
        exact ⟨htells.2.2.2, base, 0, rfl, .inl (hbase.resolve_right htells.1)⟩
      | succ i => exact isTypeName_bracketed (hbase.imp_right fun hempty => ⟨hempty, nofun⟩) nofun
    have hwild : bracketed base i ∉ wildcards := by
      cases i with
      | zero =>
        have htells := htold.resolve_left (Nat.not_succ_le_zero 0)
        simpa [bracketed] using ⟨htells.1, htells.2.1, htells.2.2.1⟩
      | succ i => exact bracketed_not_mem_wildcards base i
    rw [← bracketed_bracketed]
    exact normalizeText_group hname hwild j
  · intro name h nullable
    obtain ⟨v, hv⟩ := exists_ofName? h nullable
    obtain ⟨w, hw⟩ := exists_ofName? h false
    refine ⟨Descriptor.arrayOf nullable v, Descriptor.arrayOf nullable w, ?_, ?_, hv.symm, hw.symm,
      rfl, rfl, rfl⟩
    · have hname := Descriptor.ofName?_bracketed h 1 nullable
      rw [hv] at hname
      exact hname
    · rw [describe_arrayOf (normalize_named hw), Logged.value_pure]

/-- A pair within the parentheses makes `null` a type like others, and an array of nothing as well. -/
theorem arrays_of_name_or_group_null :
    (IsName "null" ∧ ∃ d, normalizeText "(null[])[][]" = .ok (pure [d]) ∧
      normalizeText "null[][][]" = .ok (pure [d])) ∧
    (∃ d, normalizeText "([])[]" = .ok (pure [d]) ∧ normalizeText "[][]" = .ok (pure [d])) ∧
    "null" ∉ wildcards ∧ ∃ d e, ((named "null[]").describe true).value = some d ∧
      ((arrayOf (named "null")).describe true).value = some e ∧
      d.value = ((named "null").describe true).value ∧
      e.value = ((named "null").describe false).value ∧
      d.value.isSome ∧ e.value.isSome ∧ { d with value := e.value } = e := by
  have hname : IsName "null" := (isName_iff _).mpr (by decide)
  have hwild : "null" ∉ wildcards := by decide
  obtain ⟨htexts, hnodes⟩ := arrays_of_name_or_group
  have hnull := htexts (.inl hname) (.inl (Nat.le_refl 1)) 2
  have hempty := htexts (.inr rfl) (.inl (Nat.le_refl 1)) 1
  simp only [bracketed, String.reduceAppend] at hnull hempty
  exact ⟨⟨hname, hnull⟩, hempty, hwild, hnodes hwild true⟩

end Expr

end TypeAnnotation
