import TypeAnnotation.Proofs.Acceptance
import TypeAnnotation.Proofs.Spelling

/-! # Annotations as texts

The rules of the grammar carry over to texts: a text is a term or a union if the lexemes that it
spells are. Longer annotations are put together from shorter ones, with their marks between them.
-/
namespace TypeAnnotation
open Lexeme Token Grammar

/-- The text of a term and the expression that it stands for. -/
def TermText (text : String) (e : Expr) : Prop := ∃ w, Spells text.toList w ∧ Term w e

/-- The text of a union and its alternatives. -/
def UnionText (text : String) (es : List Expr) : Prop :=
  ∃ w, Spells text.toList w ∧ Alternatives w es

theorem Expr.alternatives_of_not_isUnion {e : Expr} (h : e.isUnion = false) :
    e.alternatives = [e] := by
  cases e with
  | union => cases h
  | _ => rfl

/-- Annotations are the texts of unions. -/
theorem Expr.parse_eq_ok_iff_unionText (text : String) (e : Expr) :
    parse text = .ok e ↔ ∃ es, UnionText text es ∧ e = ofAlternatives es := by
  rw [parse_eq_ok_iff]
  constructor
  · rintro ⟨tokens, hs, es, hes, rfl⟩
    have hw := (spells_iff _ _).mpr ⟨tokens, (scan_eq_ok_iff text tokens).mp hs, rfl⟩
    exact ⟨es, ⟨_, hw, hes⟩, rfl⟩
  · rintro ⟨es, ⟨w, hw, hes⟩, rfl⟩
    obtain ⟨tokens, hs, rfl⟩ := (spells_iff _ _).mp hw
    exact ⟨tokens, (scan_eq_ok_iff text tokens).mpr hs, es, hes, rfl⟩

theorem spells_name {n : String} (hn : IsName n) : Spells n.toList [name n] := by
  have he : EndsName [] := nofun
  have h := Spells.name ((isName_iff n).mp hn) he .nil
  rwa [List.append_nil, String.ofList_toList] at h

theorem spells_bracketed {n : String} {w : List Lexeme} (h : Spells n.toList w) (depth : Nat) :
    Spells (Expr.bracketed n depth).toList (w ++ List.replicate depth brackets) := by
  induction depth with
  | zero => rwa [List.replicate_zero, List.append_nil]
  | succ depth ih =>
    have hpair : Spells "[]".toList [brackets] := .brackets .nil
    rw [Expr.bracketed, String.toList_append, List.replicate_succ', ← List.append_assoc]
    exact ih.append (fun _ _ => endsName_cons (by decide) _) hpair

namespace TermText

theorem nullable {t : String} {e : Expr} (h : TermText t e) :
    TermText ("?" ++ t) (.union (e.alternatives ++ [.null])) := by
  obtain ⟨w, hw, ht⟩ := h
  refine ⟨question :: w, ?_, .nullable ht⟩
  rw [String.toList_append]
  exact .mark rfl hw

/-- A name with parameters between angle brackets. -/
theorem container {n p : String} {w : List Lexeme} {key value : Expr} (hn : IsName n)
    (hp : Spells p.toList w) (h : Parameters w key value) :
    TermText (n ++ "<" ++ p ++ ">") (.generic n key value) := by
  have hclose : Spells (p.toList ++ ['>']) (w ++ [closeGeneric]) := hp.append_mark rfl .nil
  have hopen : Spells (n.toList ++ '<' :: (p.toList ++ ['>']))
      ([name n] ++ openGeneric :: (w ++ [closeGeneric])) :=
    (spells_name hn).append_mark rfl hclose
  exact ⟨_, by simpa using hopen, .generic n h 0⟩

theorem generic {n k v : String} {ks es : List Expr} (hn : IsName n) (hk : UnionText k ks)
    (hv : UnionText v es) :
    TermText (n ++ "<" ++ k ++ ", " ++ v ++ ">")
      (.generic n (Expr.ofAlternatives ks) (Expr.ofAlternatives es)) := by
  obtain ⟨u, hu, hks⟩ := hk
  obtain ⟨w, hw, hes⟩ := hv
  have hspace : Spells (' ' :: v.toList) w := .blank rfl hw
  have hcomma : Spells (k ++ ", " ++ v).toList (u ++ comma :: w) := by
    simpa using hu.append_mark rfl hspace
  simpa [String.append_assoc] using container hn hcomma (.keyValue hks hes)

theorem null : TermText "null" .null :=
  ⟨[.name "null"], spells_name ((isName_iff "null").mpr (by decide)), .null "null" (by decide)⟩

theorem named {n : String} {depth : Nat} (hn : IsName n)
    (h : depth = 0 → Text.lower n ≠ "null") :
    TermText (Expr.bracketed n depth) (.named (Expr.bracketed n depth)) :=
  ⟨_, spells_bracketed (spells_name hn) depth, .named n depth h⟩

theorem plain {n : String} (hn : IsName n) (h : Text.lower n ≠ "null") : TermText n (.named n) :=
  (named hn fun _ => h : TermText (Expr.bracketed n 0) _)

theorem bare (depth : Nat) :
    TermText (Expr.bracketed "" (depth + 1)) (.named (Expr.bracketed "" (depth + 1))) :=
  have hempty : Spells "".toList [] := .nil
  ⟨_, spells_bracketed hempty (depth + 1), .bare depth⟩

end TermText

theorem UnionText.one {t : String} {e : Expr} (h : TermText t e) : UnionText t e.alternatives := by
  obtain ⟨w, hw, ht⟩ := h
  exact ⟨w, hw, .one ht⟩

/-- Unions with a bar between them are a union of the alternatives of both. -/
theorem UnionText.append {t u : String} {es fs : List Expr} (h : UnionText t es)
    (hs : UnionText u fs) : UnionText (t ++ "|" ++ u) (es ++ fs) := by
  obtain ⟨v, hv, hes⟩ := h
  obtain ⟨w, hw, hfs⟩ := hs
  refine ⟨v ++ bar :: w, ?_, hes.append hfs⟩
  rw [String.toList_append, String.toList_append, List.append_assoc]
  exact hv.append_mark rfl hw

end TypeAnnotation
