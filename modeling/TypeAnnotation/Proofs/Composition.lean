import TypeAnnotation.Proofs.Canonical

/-! # Annotations put together

An annotation that is put together from others with bars, parentheses or angle brackets stands for
what they stand for, put together in the same way. Bars join alternatives, so that parentheses
around some of them say nothing.
-/
namespace TypeAnnotation
open Lexeme Token Grammar

namespace TermText

theorem group {t : String} {es : List Expr} (h : UnionText t es) (depth : Nat) :
    TermText (Expr.bracketed ("(" ++ t ++ ")") depth) ((Expr.ofAlternatives es).arrays depth) := by
  obtain ⟨w, hw, hes⟩ := h
  have hclose : Spells (t.toList ++ [')']) (w ++ [closeGroup]) := hw.append_mark rfl .nil
  have hopen : Spells ("(" ++ t ++ ")").toList (openGroup :: (w ++ [closeGroup])) := by
    rw [String.toList_append, String.toList_append]
    exact .mark rfl hclose
  refine ⟨_, spells_bracketed hopen depth, ?_⟩
  simpa using Term.group hes depth

end TermText

namespace Expr

theorem parse_of_unionText {t : String} {es : List Expr} (h : UnionText t es) :
    parse t = .ok (ofAlternatives es) :=
  (parse_eq_ok_iff_unionText t _).mpr ⟨es, h, rfl⟩

theorem parse_of_termText {t : String} {e : Expr} (h : TermText t e) (hc : Canonical e) :
    parse t = .ok e := by
  rw [parse_of_unionText (.one h), hc.ofAlternatives_alternatives]

theorem unionText_of_parse {t : String} {e : Expr} (h : parse t = .ok e) :
    UnionText t e.alternatives := by
  obtain ⟨es, ⟨w, hw, hes⟩, rfl⟩ := (parse_eq_ok_iff_unionText t e).mp h
  have hrow := hes.canonical fun n hn => (isName_iff n).mpr (hw.nameChars hn)
  rw [hrow.alternatives_ofAlternatives]
  exact ⟨w, hw, hes⟩

theorem alternatives_ne_nil_of_parse {t : String} {e : Expr} (h : parse t = .ok e) :
    e.alternatives ≠ [] :=
  (CanonicalRow.alternatives (canonical_of_parse h)).ne_nil

theorem ofAlternatives_of_length {es : List Expr} (h : 2 ≤ es.length) :
    ofAlternatives es = union es := by
  match es with
  | _ :: _ :: _ => rfl

theorem ofAlternatives_append {es fs : List Expr} (he : es ≠ []) (hf : fs ≠ []) :
    ofAlternatives (es ++ fs) = union (es ++ fs) := by
  have hes := List.length_pos_iff.mpr he
  have hfs := List.length_pos_iff.mpr hf
  apply ofAlternatives_of_length
  rw [List.length_append]
  omega

variable {a b n : String} {x y : Expr}

theorem parse_bar (ha : parse a = .ok x) (hb : parse b = .ok y) :
    parse (a ++ "|" ++ b) = .ok (union (x.alternatives ++ y.alternatives)) := by
  rw [parse_of_unionText ((unionText_of_parse ha).append (unionText_of_parse hb)),
    ofAlternatives_append (alternatives_ne_nil_of_parse ha) (alternatives_ne_nil_of_parse hb)]

theorem termText_group (ha : parse a = .ok x) (depth : Nat) :
    TermText (bracketed ("(" ++ a ++ ")") depth) (x.arrays depth) := by
  have hterm := TermText.group (unionText_of_parse ha) depth
  rwa [(canonical_of_parse ha).ofAlternatives_alternatives] at hterm

theorem parse_group (ha : parse a = .ok x) (depth : Nat) :
    parse (bracketed ("(" ++ a ++ ")") depth) = .ok (x.arrays depth) :=
  parse_of_termText (termText_group ha depth) ((canonical_of_parse ha).arrays depth)

theorem parse_parentheses (ha : parse a = .ok x) : parse ("(" ++ a ++ ")") = .ok x :=
  parse_group ha 0

theorem parse_nullable_group (ha : parse a = .ok x) :
    parse ("?(" ++ a ++ ")") = .ok (union (x.alternatives ++ [null])) := by
  have hterm : TermText ("?" ++ ("(" ++ a ++ ")")) (union (x.alternatives ++ [null])) :=
    (termText_group ha 0).nullable
  have htext : "?" ++ ("(" ++ a ++ ")") = "?(" ++ a ++ ")" := by
    rw [← String.append_assoc, ← String.append_assoc]
    rfl
  rw [← htext, parse_of_unionText (.one hterm)]
  exact congrArg Except.ok (ofAlternatives_append (alternatives_ne_nil_of_parse ha) (by simp))

theorem parse_generic_value (hn : IsName n) (ha : parse a = .ok x) :
    parse (n ++ "<" ++ a ++ ">") = .ok (generic n defaultKey x) := by
  obtain ⟨w, hw, hes⟩ := unionText_of_parse ha
  have hterm := TermText.container hn hw (.value hes)
  rw [parse_of_unionText (.one hterm), (canonical_of_parse ha).ofAlternatives_alternatives]
  rfl

theorem parse_generic (hn : IsName n) (ha : parse a = .ok x) (hb : parse b = .ok y) :
    parse (n ++ "<" ++ a ++ "," ++ b ++ ">") = .ok (generic n x y) := by
  obtain ⟨v, hv, hes⟩ := unionText_of_parse ha
  obtain ⟨w, hw, hfs⟩ := unionText_of_parse hb
  have hcomma : Spells (a ++ "," ++ b).toList (v ++ comma :: w) := by
    simpa using hv.append_mark rfl hw
  have hterm := TermText.container hn hcomma (.keyValue hes hfs)
  have htext : n ++ "<" ++ (a ++ "," ++ b) ++ ">" = n ++ "<" ++ a ++ "," ++ b ++ ">" := by
    simp only [String.append_assoc]
  rw [← htext, parse_of_unionText (.one hterm), (canonical_of_parse ha).ofAlternatives_alternatives,
    (canonical_of_parse hb).ofAlternatives_alternatives]
  rfl

theorem parse_null : parse "null" = .ok null := parse_of_termText .null .null

/-- A name with its bracket pairs stands for itself. -/
theorem parse_typeName {name : String} (h : IsTypeName name) : parse name = .ok (named name) :=
  parse_of_termText h.termText (.named h)

theorem parse_name {name : String} (h : IsName name) (hnull : Text.lower name ≠ "null") :
    parse name = .ok (named name) :=
  parse_typeName ⟨hnull, name, 0, rfl, .inl h⟩

theorem parse_int : parse "int" = .ok (named "int") :=
  parse_name ((isName_iff _).mpr (by decide)) (by decide)

/-- What an annotation stands for is put together from what its parts stand for: by bars, a group,
a question mark before a group, bracket pairs after one, and the parameters of a generic. So it
makes no difference how bars are grouped, nor whether an alternative stands in parentheses. -/
theorem parse_compositional (ha : parse a = .ok x) (hb : parse b = .ok y) (hn : IsName n)
    (depth : Nat) :
    parse (a ++ "|" ++ b) = .ok (union (x.alternatives ++ y.alternatives)) ∧
    parse ("(" ++ a ++ ")") = .ok x ∧
    parse ("?(" ++ a ++ ")") = .ok (union (x.alternatives ++ [null])) ∧
    parse (bracketed ("(" ++ a ++ ")") depth) = .ok (x.arrays depth) ∧
    parse ("(" ++ a ++ ")[]") = parse ("array<int," ++ a ++ ">") ∧
    parse (n ++ "<" ++ a ++ ">") = .ok (generic n defaultKey x) ∧
    parse (n ++ "<" ++ a ++ "," ++ b ++ ">") = .ok (generic n x y) ∧
    parse ("(" ++ a ++ ")|" ++ b) = parse (a ++ "|" ++ b) ∧
    parse (a ++ "|(" ++ b ++ ")") = parse (a ++ "|" ++ b) ∧
    ∀ (c : String) (z : Expr), parse c = .ok z →
      parse ("(" ++ a ++ "|" ++ b ++ ")|" ++ c) = parse (a ++ "|" ++ b ++ "|" ++ c) ∧
      parse (a ++ "|(" ++ b ++ "|" ++ c ++ ")") = parse (a ++ "|" ++ b ++ "|" ++ c) ∧
      parse (a ++ "|(" ++ b ++ ")|" ++ c) = parse (a ++ "|" ++ b ++ "|" ++ c) := by
  have hopen : "|(" = "|" ++ "(" := rfl
  have hclose : ")|" = ")" ++ "|" := rfl
  have hbar := parse_bar ha hb
  have ha' := parse_parentheses ha
  have hb' := parse_parentheses hb
  refine ⟨hbar, ha', parse_nullable_group ha, parse_group ha depth, ?_,
    parse_generic_value hn ha, parse_generic hn ha hb, ?_, ?_, fun c z hc => ⟨?_, ?_, ?_⟩⟩
  · have hpair : "(" ++ a ++ ")[]" = bracketed ("(" ++ a ++ ")") 1 := by
      have hmarks : ")[]" = ")" ++ "[]" := rfl
      rw [hmarks, bracketed, bracketed, String.append_assoc, String.append_assoc,
        String.append_assoc]
    have harray : "array<int," = "array" ++ "<" ++ "int" ++ "," := rfl
    rw [hpair, parse_group ha 1, harray,
      parse_generic ((isName_iff _).mpr (by decide)) parse_int ha]
    rfl
  · have htext : "(" ++ a ++ ")|" ++ b = "(" ++ a ++ ")" ++ "|" ++ b := by
      simp only [hclose, String.append_assoc]
    rw [htext, parse_bar ha' hb, hbar]
  · have htext : a ++ "|(" ++ b ++ ")" = a ++ "|" ++ ("(" ++ b ++ ")") := by
      simp only [hopen, String.append_assoc]
    rw [htext, parse_bar ha hb', hbar]
  · have htext : "(" ++ a ++ "|" ++ b ++ ")|" ++ c = "(" ++ (a ++ "|" ++ b) ++ ")" ++ "|" ++ c := by
      simp only [hclose, String.append_assoc]
    rw [htext, parse_bar (parse_parentheses hbar) hc, parse_bar hbar hc]
  · have htext : a ++ "|(" ++ b ++ "|" ++ c ++ ")" = a ++ "|" ++ ("(" ++ (b ++ "|" ++ c) ++ ")") := by
      simp only [hopen, String.append_assoc]
    rw [htext, parse_bar ha (parse_parentheses (parse_bar hb hc)), parse_bar hbar hc]
    simp only [alternatives, List.append_assoc]
  · have htext : a ++ "|(" ++ b ++ ")|" ++ c = a ++ "|" ++ ("(" ++ b ++ ")") ++ "|" ++ c := by
      simp only [hopen, hclose, String.append_assoc]
    rw [htext, parse_bar (parse_bar ha hb') hc, parse_bar hbar hc]

theorem parse_int_or_null : parse "int|null" = .ok (union [named "int", null]) := by
  have hbar := parse_bar parse_int parse_null
  simp only [String.reduceAppend] at hbar
  exact hbar

theorem parse_foos : parse "Foo[]" = .ok (named "Foo[]") := by
  have hname : IsName "Foo" := (isName_iff _).mpr (by decide)
  have hfoos : IsTypeName (bracketed "Foo" 1) := isTypeName_bracketed (.inl hname) nofun
  exact parse_typeName hfoos

/-- A union of a null with two terms in all the places where one can stand. -/
theorem parse_compositional_map :
    parse "int|null" = .ok (union [named "int", null]) ∧ parse "Foo[]" = .ok (named "Foo[]") ∧
      IsName "Map" ∧
      parse "int|null|Foo[]" = .ok (union [named "int", null, named "Foo[]"]) ∧
      parse "(int|null)[][]" = .ok (arrayOf (arrayOf (union [named "int", null]))) ∧
      parse "Map<int|null,Foo[]>" =
        .ok (generic "Map" (union [named "int", null]) (named "Foo[]")) ∧
      parse "int|null|(Foo[]|int)" = parse "int|null|Foo[]|int" := by
  have hn : IsName "Map" := (isName_iff _).mpr (by decide)
  obtain ⟨hbar, -, -, harrays, -, -, hgeneric, -, -, hgroup⟩ :=
    parse_compositional parse_int_or_null parse_foos hn 2
  have hregrouped := (hgroup "int" _ parse_int).2.1
  simp only [String.reduceAppend, bracketed] at hbar harrays hgeneric hregrouped
  exact ⟨parse_int_or_null, parse_foos, hn, hbar, harrays, hgeneric, hregrouped⟩

end Expr

end TypeAnnotation
