import TypeAnnotation.Proofs.Annotation
import TypeAnnotation.Proofs.NullName

/-! # Canonical expressions

The expressions that the parser gives are written so that reading them gives the same again. They
have names that it can read, no union within a union, no union of fewer than two alternatives and
nothing foreign.
-/
namespace TypeAnnotation
open Token Grammar

namespace Expr

/-- A name or nothing with bracket pairs after it. Without a name there is one pair at least, and
no letter case of `null` is a type. -/
def IsTypeName (name : String) : Prop :=
  Text.lower name ≠ "null" ∧
    ∃ base depth, name = bracketed base depth ∧ (IsName base ∨ base = "" ∧ depth ≠ 0)

/-- The expressions that annotations are read as. -/
inductive Canonical : Expr → Prop
  | named {n : String} (hn : IsTypeName n) : Canonical (named n)
  | null : Canonical null
  | union {es : List Expr} (hlen : 2 ≤ es.length) (hes : ∀ e ∈ es, Canonical e)
    (hflat : ∀ e ∈ es, e.isUnion = false) : Canonical (union es)
  | generic {n : String} {key value : Expr} (hn : IsName n) (hk : Canonical key)
    (hv : Canonical value) : Canonical (generic n key value)

structure CanonicalRow (es : List Expr) : Prop where
  ne_nil : es ≠ []
  canonical : ∀ e ∈ es, Canonical e
  flat : ∀ e ∈ es, e.isUnion = false

/-- Bracket pairs after a name keep it from being a null. -/
theorem lower_bracketed_ne (n : String) (depth : Nat) :
    Text.lower (bracketed n (depth + 1)) ≠ "null" := by
  intro h
  have hnull := (isNullName_iff _).mpr h
  rw [isNullName, beq_iff_eq, bracketed, String.toList_append, List.map_append] at hnull
  have hlast := congrArg List.getLast? hnull
  have hbracket : ("[]".toList.map Char.toLower).getLast? = some ']' := by decide
  rw [List.getLast?_append, hbracket, Option.some_or] at hlast
  exact absurd hlast (by decide)

theorem isTypeName_bracketed {n : String} {depth : Nat} (hn : IsName n ∨ n = "" ∧ depth ≠ 0)
    (h : depth = 0 → Text.lower n ≠ "null") : IsTypeName (bracketed n depth) := by
  refine ⟨?_, n, depth, rfl, hn⟩
  cases depth with
  | zero => exact h rfl
  | succ depth => exact lower_bracketed_ne n depth

namespace Canonical

theorem of_isName {n : String} (hn : IsName n) (h : Text.lower n ≠ "null") :
    Canonical (.named n) :=
  .named ⟨h, n, 0, rfl, .inl hn⟩

theorem int : Canonical (.named "int") := of_isName ((isName_iff _).mpr (by decide)) (by decide)

theorem defaultKey : Canonical Expr.defaultKey := by
  refine .union (by decide) ?_ (by decide)
  intro e he
  rcases List.mem_pair.mp he with rfl | rfl
  · exact int
  · exact of_isName ((isName_iff _).mpr (by decide)) (by decide)

theorem arrays {e : Expr} (h : Canonical e) (depth : Nat) : Canonical (e.arrays depth) := by
  induction depth with
  | zero => exact h
  | succ depth ih => exact .generic ((isName_iff _).mpr (by decide)) int ih

/-- Nothing is lost by looking at what the bars join. -/
theorem ofAlternatives_alternatives {e : Expr} (h : Canonical e) :
    Expr.ofAlternatives e.alternatives = e := by
  cases h with
  | named | null | generic => rfl
  | @union es hlen =>
    match es with
    | _ :: _ :: _ => rfl

end Canonical

namespace CanonicalRow

theorem one {e : Expr} (h : Canonical e) (hflat : e.isUnion = false) : CanonicalRow [e] := by
  refine ⟨by simp, ?_, ?_⟩ <;> intro a ha <;> obtain rfl := List.mem_singleton.mp ha
  · exact h
  · exact hflat

theorem append {es fs : List Expr} (h : CanonicalRow es) (hs : CanonicalRow fs) :
    CanonicalRow (es ++ fs) :=
  ⟨List.append_ne_nil_of_left_ne_nil h.ne_nil fs,
    fun e he => (List.mem_append.mp he).elim (h.canonical e) (hs.canonical e),
    fun e he => (List.mem_append.mp he).elim (h.flat e) (hs.flat e)⟩

theorem alternatives {e : Expr} (h : Canonical e) : CanonicalRow e.alternatives := by
  cases h with
  | named hn => exact one (.named hn) rfl
  | null => exact one .null rfl
  | generic hn hk hv => exact one (.generic hn hk hv) rfl
  | @union es hlen hes hflat =>
    have hlong : 0 < es.length := by omega
    exact ⟨List.ne_nil_of_length_pos hlong, hes, hflat⟩

theorem ofAlternatives {es : List Expr} (h : CanonicalRow es) :
    Canonical (ofAlternatives es) := by
  match es with
  | [] => exact absurd rfl h.ne_nil
  | [e] => exact h.canonical e List.mem_cons_self
  | _ :: _ :: _ => exact .union (by simp) h.canonical h.flat

/-- The alternatives of a row are all that its union has. -/
theorem alternatives_ofAlternatives {es : List Expr} (h : CanonicalRow es) :
    (Expr.ofAlternatives es).alternatives = es := by
  match es with
  | [] => exact absurd rfl h.ne_nil
  | [e] => exact alternatives_of_not_isUnion (h.flat e List.mem_cons_self)
  | _ :: _ :: _ => rfl

end CanonicalRow

end Expr

namespace Grammar

/-! ## What is read is canonical -/

mutual

theorem Term.canonical : ∀ {w : List Lexeme} {e : Expr}, Term w e →
    (∀ n, .name n ∈ w → IsName n) → Expr.Canonical e
  | _, _, .nullable (e := e) h, hw => by
    have hrow := Expr.CanonicalRow.alternatives (h.canonical fun n hn => hw n (by simp [hn]))
    have hall := hrow.append (.one .null rfl)
    have hlen := List.length_pos_iff.mpr hrow.ne_nil
    refine .union ?_ hall.canonical hall.flat
    rw [List.length_append, List.length_singleton]
    omega
  | _, _, .group h depth, hw =>
    (h.canonical fun n hn => hw n (by simp [hn])).ofAlternatives.arrays depth
  | _, _, .generic n h depth, hw =>
    have hparameters := h.canonical fun m hm => hw m (by simp [hm])
    .arrays (.generic (hw n (by simp)) hparameters.1 hparameters.2) depth
  | _, _, .null _ _, _ => .null
  | _, _, .named n depth h, hw =>
    .named (Expr.isTypeName_bracketed (.inl (hw n (by simp))) h)
  | _, _, .bare depth, _ =>
    .named (Expr.isTypeName_bracketed (.inr ⟨rfl, by simp⟩) nofun)

theorem Parameters.canonical : ∀ {w : List Lexeme} {key value : Expr}, Parameters w key value →
    (∀ n, .name n ∈ w → IsName n) → key.Canonical ∧ value.Canonical
  | _, _, _, .value h, hw => ⟨.defaultKey, (h.canonical hw).ofAlternatives⟩
  | _, _, _, .keyValue hk h, hw =>
    ⟨(hk.canonical fun n hn => hw n (by simp [hn])).ofAlternatives,
      (h.canonical fun n hn => hw n (by simp [hn])).ofAlternatives⟩

theorem Alternatives.canonical : ∀ {w : List Lexeme} {es : List Expr}, Alternatives w es →
    (∀ n, .name n ∈ w → IsName n) → Expr.CanonicalRow es
  | _, _, .one h, hw => .alternatives (h.canonical hw)
  | _, _, .more h hs, hw =>
    (Expr.CanonicalRow.alternatives (h.canonical fun n hn => hw n (by simp [hn]))).append
      (hs.canonical fun n hn => hw n (by simp [hn]))

end

end Grammar

namespace Expr

theorem canonical_of_parse {text : String} {e : Expr} (h : parse text = .ok e) : Canonical e := by
  obtain ⟨es, ⟨w, hw, hes⟩, rfl⟩ := (parse_eq_ok_iff_unionText text e).mp h
  exact (hes.canonical fun n hn => (isName_iff n).mpr (hw.nameChars hn)).ofAlternatives

/-! ## What is canonical is read again -/

/-- Bars between alternatives, with parentheses around the unions among them, join what each of them
is written for. -/
theorem unionText_renderAlternatives {es : List Expr} {row : Expr → List Expr} (hne : es ≠ [])
    (h : ∀ e ∈ es, UnionText (if e.isUnion then "(" ++ e.render ++ ")" else e.render) (row e)) :
    UnionText ("|".intercalate (renderAlternatives es)) (es.flatMap row) := by
  induction es with
  | nil => exact absurd rfl hne
  | cons e es ih =>
    have he := h e List.mem_cons_self
    cases es with
    | nil => simpa [renderAlternatives] using he
    | cons f fs =>
      have hrest := ih (by simp) fun a ha => h a (List.mem_cons_of_mem e ha)
      rw [renderAlternatives, renderAlternatives, String.intercalate_cons_cons]
      exact he.append hrest

/-- Bars between alternatives that are no unions make a union of just these. -/
theorem unionText_intercalate {es : List Expr} (hne : es ≠ [])
    (hflat : ∀ e ∈ es, e.isUnion = false) (h : ∀ e ∈ es, TermText e.render e) :
    UnionText ("|".intercalate (renderAlternatives es)) es := by
  have hjoined : UnionText ("|".intercalate (renderAlternatives es)) (es.flatMap fun e => [e]) := by
    refine unionText_renderAlternatives hne fun e he => ?_
    have hone := UnionText.one (h e he)
    rw [alternatives_of_not_isUnion (hflat e he)] at hone
    simpa [hflat e he] using hone
  simpa using hjoined

theorem IsTypeName.termText {n : String} (h : IsTypeName n) : TermText n (.named n) := by
  obtain ⟨hnull, base, depth, rfl, hbase | ⟨rfl, hdepth⟩⟩ := h
  · refine .named hbase ?_
    rintro rfl
    exact hnull
  · obtain ⟨depth, rfl⟩ := Nat.exists_eq_succ_of_ne_zero hdepth
    exact .bare depth

theorem Canonical.text_render {e : Expr} (h : Canonical e) :
    (e.isUnion = false → TermText e.render e) ∧ UnionText e.render e.alternatives := by
  induction h with
  | named hn => exact ⟨fun _ => hn.termText, .one hn.termText⟩
  | null => exact ⟨fun _ => .null, .one .null⟩
  | @union es hlen hes hflat ih =>
    have hlong : 0 < es.length := by omega
    refine ⟨nofun, ?_⟩
    rw [render]
    exact unionText_intercalate (List.ne_nil_of_length_pos hlong) hflat
      fun e he => (ih e he).1 (hflat e he)
  | @generic n key value hn hk hv ihk ihv =>
    have hterm : TermText (Expr.generic n key value).render (.generic n key value) := by
      have hgeneric := TermText.generic hn ihk.2 ihv.2
      rwa [hk.ofAlternatives_alternatives, hv.ofAlternatives_alternatives] at hgeneric
    exact ⟨fun _ => hterm, .one hterm⟩

theorem Canonical.parse_render {e : Expr} (h : Canonical e) : parse e.render = .ok e :=
  (parse_eq_ok_iff_unionText e.render e).mpr
    ⟨e.alternatives, h.text_render.2, h.ofAlternatives_alternatives.symm⟩

/-- The canonical expressions are those that some annotation is read as, and those that their own
rendering is read as. So rendering what was read and reading it again changes nothing. -/
theorem canonical_iff_parse_render :
    (∀ e : Expr, (Canonical e ↔ ∃ text, parse text = .ok e) ∧
      (Canonical e ↔ parse e.render = .ok e)) ∧
    ∀ text : String, (do parse (← parse text).render) = parse text := by
  refine ⟨fun e => ⟨⟨?_, ?_⟩, ⟨?_, ?_⟩⟩, fun text => ?_⟩
  · exact fun h => ⟨e.render, h.parse_render⟩
  · exact fun ⟨text, h⟩ => canonical_of_parse h
  · exact fun h => h.parse_render
  · exact fun h => canonical_of_parse h
  · cases hp : parse text with
    | error error => rfl
    | ok e => exact (canonical_of_parse hp).parse_render

end Expr

end TypeAnnotation
