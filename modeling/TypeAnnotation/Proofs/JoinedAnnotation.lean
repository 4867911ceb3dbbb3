import TypeAnnotation.Proofs.Composition
import TypeAnnotation.Proofs.NullFold

/-! # Annotations with a bar between them

A bar between two annotations puts the descriptors of the one before those of the other, and a null
on either side makes all of them nullable. A question mark in front of an annotation, which stands
by its first term only, says no more and no less than a null at its beginning or at its end.
-/
namespace TypeAnnotation
open Lexeme Token Grammar

namespace Grammar

/-! ## Adding a null and taking it away -/

/-- The null of a question mark comes after the alternatives of the first term. -/
theorem Alternatives.nullable {w : List Lexeme} {es : List Expr} :
    Alternatives w es → ∃ fs gs, es = fs ++ gs ∧ Alternatives (question :: w) (fs ++ .null :: gs)
  | .one h => ⟨_, [], (List.append_nil _).symm, .one h.nullable⟩
  | .more h hs => by
    refine ⟨_, _, rfl, ?_⟩
    have hmore := Alternatives.more h.nullable hs
    simpa [Expr.alternatives] using hmore

theorem Term.of_question {w : List Lexeme} {e : Expr} (h : Term (question :: w) e) :
    ∃ f, Term w f := by
  cases h with
  | nullable h => exact ⟨_, h⟩

theorem Alternatives.of_question {w : List Lexeme} {es : List Expr}
    (h : Alternatives (question :: w) es) : ∃ fs, Alternatives w fs := by
  generalize ht : question :: w = t at h
  cases h with
  | one h =>
    subst ht
    obtain ⟨e, he⟩ := h.of_question
    exact ⟨_, .one he⟩
  | @more v u e es h hs =>
    cases v with
    | nil => exact absurd rfl h.ne_nil
    | cons l v =>
      obtain ⟨rfl, rfl⟩ := List.cons.inj ht
      obtain ⟨e, he⟩ := h.of_question
      exact ⟨_, .more he hs⟩

/-- No term goes on with a bar after a name at its beginning. -/
theorem Term.head?_ne_bar {n : String} {w : List Lexeme} {e : Expr} (h : Term (name n :: w) e) :
    w.head? ≠ some bar := by
  cases h with
  | generic => simp
  | null => simp
  | named n depth => cases depth <;> simp [List.replicate_succ]

theorem Alternatives.of_name_bar {n : String} {w : List Lexeme} {es : List Expr}
    (h : Alternatives (name n :: bar :: w) es) : ∃ fs, Alternatives w fs := by
  generalize ht : name n :: bar :: w = t at h
  cases h with
  | one h =>
    subst ht
    exact absurd rfl h.head?_ne_bar
  | @more v u e es h hs =>
    match v with
    | [] => exact absurd rfl h.ne_nil
    | [l] =>
      obtain ⟨-, hrest⟩ := List.cons.inj ht
      obtain ⟨-, rfl⟩ := List.cons.inj hrest
      exact ⟨_, hs⟩
    | l :: l' :: v =>
      obtain ⟨rfl, hrest⟩ := List.cons.inj ht
      obtain ⟨rfl, -⟩ := List.cons.inj hrest
      exact absurd rfl h.head?_ne_bar

/-- A term that ends with a name has nothing but question marks before it, and so no bar. -/
theorem Term.bar_not_mem : ∀ {w : List Lexeme} {e : Expr}, Term w e →
    ∀ {n : String}, w.getLast? = some (name n) → bar ∉ w
  | _, _, .nullable h, n, hn => by
    rw [List.getLast?_cons_of_ne_nil h.ne_nil] at hn
    simpa using h.bar_not_mem hn
  | _, _, .group (w := w) h depth, n, hn =>
    absurd hn (getLast?_brackets_ne_name (v := openGroup :: w) (by simp) depth n)
  | _, _, .generic m (w := w) h depth, n, hn =>
    absurd hn (getLast?_brackets_ne_name (v := name m :: openGeneric :: w) (by simp) depth n)
  | _, _, .null _ _, n, hn => by simp
  | _, _, .named _ depth _, n, hn => by simp
  | _, _, .bare depth, n, hn => by simp

/-- A row that ends with a bar and a name is divided at that bar or at one before it. -/
theorem eq_or_exists_of_bar_name {u v w : List Lexeme} {n : String}
    (h : v ++ bar :: u = w ++ [bar, name n]) :
    v = w ∨ ∃ r, u = r ++ [bar, name n] ∧ w = v ++ bar :: r := by
  rcases List.append_eq_append_iff.mp h with ⟨r, rfl, hr⟩ | ⟨r, rfl, hr⟩
  · cases r with
    | nil => exact .inl (List.append_nil v).symm
    | cons l r =>
      obtain ⟨rfl, rfl⟩ := List.cons.inj hr
      exact .inr ⟨r, rfl, rfl⟩
  · match r with
    | [] => exact .inl (List.append_nil w)
    | [l] => simp at hr
    | l :: l' :: r => simp at hr

theorem Alternatives.of_bar_name : ∀ {t : List Lexeme} {es : List Expr}, Alternatives t es →
    ∀ {w : List Lexeme} {n : String}, t = w ++ [bar, name n] → ∃ fs, Alternatives w fs
  | _, _, .one h, w, n, ht => by
    have hlast : (w ++ [bar, name n]).getLast? = some (name n) := by simp
    exact absurd (by simp [ht]) (h.bar_not_mem (ht ▸ hlast))
  | _, _, .more h hs, w, n, ht => by
    rcases eq_or_exists_of_bar_name ht with rfl | ⟨r, hr, rfl⟩
    · exact ⟨_, .one h⟩
    · obtain ⟨fs, hfs⟩ := hs.of_bar_name hr
      exact ⟨_, .more h hfs⟩

end Grammar

namespace UnionText
variable {t : String} {es : List Expr}

theorem nullable (h : UnionText t es) :
    ∃ fs gs, es = fs ++ gs ∧ UnionText ("?" ++ t) (fs ++ .null :: gs) := by
  obtain ⟨w, hw, hes⟩ := h
  obtain ⟨fs, gs, rfl, hnull⟩ := hes.nullable
  refine ⟨fs, gs, rfl, question :: w, ?_, hnull⟩
  rw [String.toList_append]
  exact .mark rfl hw

theorem of_nullable (h : UnionText ("?" ++ t) es) : ∃ fs, UnionText t fs := by
  obtain ⟨w, hw, hes⟩ := h
  have hmark : Spells ([] ++ '?' :: t.toList) w := by simpa using hw
  obtain ⟨u, v, rfl, hu, hv⟩ := hmark.of_append_mark rfl
  obtain rfl := hu.eq_nil
  obtain ⟨fs, hfs⟩ := hes.of_question
  exact ⟨fs, v, hv, hfs⟩

theorem of_null_bar (h : UnionText ("null" ++ "|" ++ t) es) : ∃ fs, UnionText t fs := by
  obtain ⟨w, hw, hes⟩ := h
  have hmark : Spells ("null".toList ++ '|' :: t.toList) w := by simpa using hw
  obtain ⟨u, v, rfl, hu, hv⟩ := hmark.of_append_mark rfl
  obtain rfl := hu.unique (spells_name ((isName_iff "null").mpr (by decide)))
  obtain ⟨fs, hfs⟩ := hes.of_name_bar
  exact ⟨fs, v, hv, hfs⟩

theorem of_bar_null (h : UnionText (t ++ "|" ++ "null") es) : ∃ fs, UnionText t fs := by
  obtain ⟨w, hw, hes⟩ := h
  have hmark : Spells (t.toList ++ '|' :: "null".toList) w := by simpa using hw
  obtain ⟨u, v, rfl, hu, hv⟩ := hmark.of_append_mark rfl
  obtain rfl := hv.unique (spells_name ((isName_iff "null").mpr (by decide)))
  obtain ⟨fs, hfs⟩ := hes.of_bar_name rfl
  exact ⟨fs, u, hu, hfs⟩

end UnionText

def describeText (text : String) : Except SyntaxError (List Descriptor) :=
  Logged.value <$> normalizeText text

namespace Expr

def hasNull (e : Expr) : Bool := e.alternatives.any isNull

theorem describeText_of_parse {t : String} {e : Expr} (h : parse t = .ok e) :
    describeText t = .ok e.normalize.value := by
  rw [describeText, normalizeText_of_parse h]
  rfl

theorem exists_error_of_not_unionText {t : String} (h : ∀ es, ¬ UnionText t es) :
    ∃ error, describeText t = .error error := by
  cases hp : parse t with
  | ok e => exact absurd (unionText_of_parse hp) (h _)
  | error error =>
    refine ⟨error, ?_⟩
    rw [describeText, normalizeText_of_parse_eq_error hp]
    rfl

variable {a b : String} {x y : Expr}

theorem describeText_union {es : List Expr} (h : parse a = .ok (union es)) :
    describeText a = .ok (describeEach (es.any isNull) es) := by
  rw [describeText_of_parse h, value_normalize_union]

/-- Without nulls it makes no difference whether there are several alternatives. -/
theorem describeText_of_not_hasNull (ha : parse a = .ok x) (h : x.hasNull = false) :
    describeText a = .ok (describeEach false x.alternatives) := by
  cases hu : x.isUnion with
  | true =>
    obtain ⟨es, rfl⟩ : ∃ es, x = union es := by
      cases x with
      | union es => exact ⟨es, rfl⟩
      | _ => cases hu
    have hes : es.any isNull = false := h
    rw [describeText_union ha, hes, alternatives]
  | false =>
    have halone := alternatives_of_not_isUnion hu
    have hnull : x.isNull = false := by simpa [hasNull, halone] using h
    rw [describeText_of_parse ha, normalize_eq_describe hu, halone, describeEach_singleton hnull,
      hnull, Logged.value_map]

theorem append_bar_null (a : String) : a ++ "|null" = a ++ "|" ++ "null" := by
  rw [String.append_assoc]
  rfl

theorem describeText_bar_null (ha : parse a = .ok x) :
    describeText (a ++ "|null") = .ok (describeEach true x.alternatives) := by
  rw [append_bar_null, describeText_union (parse_bar ha parse_null)]
  simp [alternatives, isNull]

theorem describeText_null_bar (ha : parse a = .ok x) :
    describeText ("null|" ++ a) = .ok (describeEach true x.alternatives) := by
  have htext : "null|" = "null" ++ "|" := rfl
  rw [htext, describeText_union (parse_bar parse_null ha)]
  simp [alternatives, isNull]

/-- The question mark stands by the first term, so that its null comes somewhere in between. -/
theorem describeText_question (ha : parse a = .ok x) :
    describeText ("?" ++ a) = .ok (describeEach true x.alternatives) := by
  obtain ⟨fs, gs, hx, hnull⟩ := (unionText_of_parse ha).nullable
  have hlen : 2 ≤ (fs ++ null :: gs).length := by
    have hpos := List.length_pos_iff.mpr (alternatives_ne_nil_of_parse ha)
    rw [hx, List.length_append] at hpos
    rw [List.length_append, List.length_cons]
    omega
  have hparse := parse_of_unionText hnull
  rw [ofAlternatives_of_length hlen] at hparse
  rw [describeText_union hparse, hx]
  simp [isNull]

/-- A question mark in front of an annotation, a null after it and a null before it are the same. If
it is an annotation all three are and have the same descriptors; otherwise none of them is. -/
theorem describeText_with_null (a : String) :
    (∃ x found, parse a = .ok x ∧ describeText ("?" ++ a) = .ok found ∧
      describeText (a ++ "|null") = .ok found ∧ describeText ("null|" ++ a) = .ok found ∧
      ∀ d ∈ found, d.nullable = true) ∨
    (∃ e e₁ e₂ e₃, parse a = .error e ∧ describeText ("?" ++ a) = .error e₁ ∧
      describeText (a ++ "|null") = .error e₂ ∧ describeText ("null|" ++ a) = .error e₃) := by
  cases ha : parse a with
  | ok x =>
    exact .inl ⟨x, _, rfl, describeText_question ha, describeText_bar_null ha,
      describeText_null_bar ha, fun d => nullable_of_mem_describeEach⟩
  | error error =>
    have hnot : ¬ ∃ es, UnionText a es := by
      rintro ⟨es, hes⟩
      rw [parse_of_unionText hes] at ha
      cases ha
    obtain ⟨e₁, h₁⟩ := exists_error_of_not_unionText fun _ (h : UnionText ("?" ++ a) _) =>
      hnot h.of_nullable
    obtain ⟨e₂, h₂⟩ := exists_error_of_not_unionText fun _ (h : UnionText (a ++ "|" ++ "null") _) =>
      hnot h.of_bar_null
    obtain ⟨e₃, h₃⟩ := exists_error_of_not_unionText fun _ (h : UnionText ("null" ++ "|" ++ a) _) =>
      hnot h.of_null_bar
    exact .inr ⟨error, e₁, e₂, e₃, rfl, h₁, append_bar_null a ▸ h₂, h₃⟩

/-- What a bar joins is described one after the other. A null on either side is a null for both. -/
theorem describeText_bar (ha : parse a = .ok x) (hb : parse b = .ok y) :
    (x.hasNull = false → y.hasNull = false →
      ∃ ds es, describeText a = .ok ds ∧ describeText b = .ok es ∧
        describeText (a ++ "|" ++ b) = .ok (ds ++ es)) ∧
    (x.hasNull = true ∨ y.hasNull = true →
      ∃ ds es, describeText (a ++ "|null") = .ok ds ∧ describeText (b ++ "|null") = .ok es ∧
        describeText (a ++ "|" ++ b) = .ok (ds ++ es) ∧ ∀ d ∈ ds ++ es, d.nullable = true) := by
  have hbar := describeText_union (parse_bar ha hb)
  rw [describeEach_append, List.any_append] at hbar
  constructor
  · intro hx hy
    have hnone : (x.alternatives.any isNull || y.alternatives.any isNull) = false := by
      simp only [hasNull] at hx hy
      rw [hx, hy]
      rfl
    rw [hnone] at hbar
    exact ⟨_, _, describeText_of_not_hasNull ha hx, describeText_of_not_hasNull hb hy, hbar⟩
  · intro h
    have hsome : (x.alternatives.any isNull || y.alternatives.any isNull) = true :=
      Bool.or_eq_true_iff.mpr h
    rw [hsome] at hbar
    refine ⟨_, _, describeText_bar_null ha, describeText_bar_null hb, hbar, fun d hd => ?_⟩
    rw [← describeEach_append] at hd
    exact nullable_of_mem_describeEach hd

/-- Integers beside objects, and the same where the integers may be missing. -/
theorem describeText_bar_foos :
    let int (nullable : Bool) : Descriptor := { kind := .int, nullable }
    let foos (nullable : Bool) : Descriptor := {
      kind := .array, nullable, isCollection := true, key := some { kind := .int }
      value := some { kind := .object, nullable, className := some "Foo" } }
    (parse "int" = .ok (named "int") ∧ parse "Foo[]" = .ok (named "Foo[]") ∧
      describeText "int" = .ok [int false] ∧ describeText "Foo[]" = .ok [foos false] ∧
      describeText "int|Foo[]" = .ok [int false, foos false]) ∧
    (parse "int|null" = .ok (union [named "int", null]) ∧
      describeText "int|null|null" = .ok [int true] ∧ describeText "Foo[]|null" = .ok [foos true] ∧
      describeText "int|null|Foo[]" = .ok [int true, foos true]) := by
  intro int foos
  have hint : describeText "int" = .ok [int false] := by
    rw [describeText_of_parse parse_int]
    exact congrArg _ (by decide)
  have hfoos : describeText "Foo[]" = .ok [foos false] := by
    rw [describeText_of_parse parse_foos]
    exact congrArg _ (by decide)
  obtain ⟨ds, es, hds, hes, hjoined⟩ := (describeText_bar parse_int parse_foos).1 rfl rfl
  obtain rfl := Except.ok.inj (hint.symm.trans hds)
  obtain rfl := Except.ok.inj (hfoos.symm.trans hes)
  have hints : describeText "int|null|null" = .ok [int true] := by
    have hparse := parse_bar parse_int_or_null parse_null
    simp only [String.reduceAppend] at hparse
    rw [describeText_of_parse hparse]
    exact congrArg _ (by decide)
  have hfooses : describeText "Foo[]|null" = .ok [foos true] := by
    have hparse := parse_bar parse_foos parse_null
    simp only [String.reduceAppend] at hparse
    rw [describeText_of_parse hparse]
    exact congrArg _ (by decide)
  obtain ⟨ds, es, hds, hes, hnullable, -⟩ :=
    (describeText_bar parse_int_or_null parse_foos).2 (.inl rfl)
  obtain rfl := Except.ok.inj (hints.symm.trans hds)
  obtain rfl := Except.ok.inj (hfooses.symm.trans hes)
  exact ⟨⟨parse_int, parse_foos, hint, hfoos, hjoined⟩, parse_int_or_null, hints, hfooses, hnullable⟩

end Expr

end TypeAnnotation
