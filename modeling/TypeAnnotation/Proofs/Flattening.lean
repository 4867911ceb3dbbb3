import TypeAnnotation.Proofs.Composition

/-! # Flattening

Parentheses around a union within a union are not kept by the parser. What an expression is written
as is therefore read as its flattening, where the alternatives of inner unions stand among those of
the outer one and a union of one alternative is that alternative.
-/
namespace TypeAnnotation
open Token Grammar

namespace Expr

mutual

/-- The expression with the unions in its unions dissolved, at every depth. -/
def flat : Expr → Expr
  | named name => named name
  | null => null
  | union alternatives => ofAlternatives (flatAlternatives alternatives)
  | generic name key value => generic name key.flat value.flat
  | foreign text => foreign text

def flatAlternatives : List Expr → List Expr
  | [] => []
  | e :: rest => e.flat.alternatives ++ flatAlternatives rest

end

/-- The expressions that are written in a way that can be read. Unions may be nested and may have a
single alternative. -/
inductive Readable : Expr → Prop
  | named {n : String} (hn : IsTypeName n) : Readable (named n)
  | null : Readable null
  | union {es : List Expr} (hne : es ≠ []) (hes : ∀ e ∈ es, Readable e) : Readable (union es)
  | generic {n : String} {key value : Expr} (hn : IsName n) (hk : Readable key)
    (hv : Readable value) : Readable (generic n key value)

theorem flatAlternatives_eq_flatMap (es : List Expr) :
    flatAlternatives es = es.flatMap fun e => e.flat.alternatives := by
  induction es with
  | nil => rfl
  | cons e es ih => rw [flatAlternatives, ih, List.flatMap_cons]

/-- Rows one after the other are a row if there is any. -/
theorem CanonicalRow.flatMap {es : List Expr} {row : Expr → List Expr} (hne : es ≠ [])
    (h : ∀ e ∈ es, CanonicalRow (row e)) : CanonicalRow (es.flatMap row) := by
  refine ⟨?_, ?_, ?_⟩
  · obtain ⟨e, rest, rfl⟩ := List.exists_cons_of_ne_nil hne
    rw [List.flatMap_cons]
    exact List.append_ne_nil_of_left_ne_nil (h e List.mem_cons_self).ne_nil _
  · intro a ha
    obtain ⟨e, he, ha⟩ := List.mem_flatMap.mp ha
    exact (h e he).canonical a ha
  · intro a ha
    obtain ⟨e, he, ha⟩ := List.mem_flatMap.mp ha
    exact (h e he).flat a ha

/-- A union in parentheses is written for its alternatives, as it is without them. -/
theorem unionText_group {t : String} {es : List Expr} (h : UnionText t es)
    (hrow : CanonicalRow es) : UnionText ("(" ++ t ++ ")") es := by
  have hterm : TermText ("(" ++ t ++ ")") (ofAlternatives es) := TermText.group h 0
  have hone := UnionText.one hterm
  rwa [hrow.alternatives_ofAlternatives] at hone

namespace Readable
variable {e : Expr}

theorem canonical_flat (h : Readable e) : Canonical e.flat := by
  induction h with
  | named hn => exact .named hn
  | null => exact .null
  | @union es hne hes ih =>
    have hrow : CanonicalRow (es.flatMap fun e => e.flat.alternatives) :=
      .flatMap hne fun e he => .alternatives (ih e he)
    rw [flat, flatAlternatives_eq_flatMap]
    exact hrow.ofAlternatives
  | generic hn hk hv ihk ihv => exact .generic hn ihk ihv

/-- An expression is written for the alternatives of its flattening. Inside of unions it is so with
its parentheses too. -/
theorem unionText_flat (h : Readable e) : UnionText e.render e.flat.alternatives := by
  induction h with
  | named hn => exact .one hn.termText
  | null => exact .one .null
  | @union es hne hes ih =>
    have hrow : CanonicalRow (es.flatMap fun e => e.flat.alternatives) :=
      .flatMap hne fun e he => .alternatives (hes e he).canonical_flat
    have hjoined : UnionText ("|".intercalate (renderAlternatives es))
        (es.flatMap fun e => e.flat.alternatives) := by
      refine unionText_renderAlternatives hne fun e he => ?_
      split
      · exact unionText_group (ih e he) (.alternatives (hes e he).canonical_flat)
      · exact ih e he
    rw [render, flat, flatAlternatives_eq_flatMap, hrow.alternatives_ofAlternatives]
    exact hjoined
  | @generic n key value hn hk hv ihk ihv =>
    have hterm := TermText.generic hn ihk ihv
    rw [hk.canonical_flat.ofAlternatives_alternatives,
      hv.canonical_flat.ofAlternatives_alternatives] at hterm
    exact .one hterm

end Readable

/-- What is written of a readable expression is read as its flattening. The flattening is written so
that it is read as itself. -/
theorem parse_render_eq_flat {e : Expr} (h : Readable e) :
    parse e.render = .ok e.flat ∧ parse e.flat.render = .ok e.flat := by
  refine ⟨?_, h.canonical_flat.parse_render⟩
  rw [parse_of_unionText h.unionText_flat, h.canonical_flat.ofAlternatives_alternatives]

/-- Unions of one alternative around a null, in a slot and around all of it. -/
theorem parse_render_eq_flat_nested :
    let array : Expr := named "Foo[]"
    let nested : Expr :=
      union [union [union [null], array], generic "Map" (union [union [array, null]]) (union [array])]
    Readable nested ∧ nested.render = "((null)|Foo[])|Map<(Foo[]|null), Foo[]>" ∧
      nested.flat = union [null, array, generic "Map" (union [array, null]) array] ∧
      parse "((null)|Foo[])|Map<(Foo[]|null), Foo[]>" = .ok nested.flat ∧
      parse "null|Foo[]|Map<Foo[]|null, Foo[]>" = .ok nested.flat := by
  intro array nested
  have hfoo : IsName "Foo" := (isName_iff _).mpr (by decide)
  have hfoos : IsTypeName (bracketed "Foo" 1) := isTypeName_bracketed (.inl hfoo) nofun
  have harray : Readable array := .named hfoos
  have hmap : IsName "Map" := (isName_iff _).mpr (by decide)
  have hinner : Readable (union [union [null], array]) :=
    .union (by simp) (by simpa using ⟨.union (by simp) (by simpa using .null), harray⟩)
  have hkey : Readable (union [union [array, null]]) :=
    .union (by simp) (by simpa using .union (by simp) (by simpa using ⟨harray, .null⟩))
  have hvalue : Readable (union [array]) := .union (by simp) (by simpa using harray)
  have hnested : Readable nested :=
    .union (by simp) (by simpa using ⟨hinner, .generic hmap hkey hvalue⟩)
  obtain ⟨hparse, hflat⟩ := parse_render_eq_flat hnested
  exact ⟨hnested, rfl, rfl, hparse, hflat⟩

end Expr

end TypeAnnotation
