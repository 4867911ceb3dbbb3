import Mathlib.Data.List.Basic
import TypeAnnotation.Proofs.Viability

/-! # Unions among other tokens

Which union is read at a cursor, and where it ends, is decided by the tokens that are taken and the
one after them. Of these only the kinds and the written forms matter. So the same tokens are read in
the same way in any other row, before whatever does not lengthen a union: anything but a bar, a
bracket pair and an opening angle bracket.
-/
namespace TypeAnnotation
open Lexeme Token Grammar

def Lexeme.spelling (l : Lexeme) : String × String := (l.kind, l.value)

/-- The kind tells the marks apart, the written form tells the names apart. -/
theorem Lexeme.spelling_injective : Function.Injective spelling := by
  intro l l' h
  obtain ⟨hk, hv⟩ := Prod.mk.inj h
  by_cases hname : ∃ n, l' = name n
  · obtain ⟨n, rfl⟩ := hname
    obtain ⟨m, rfl⟩ := eq_name_of_kind hk
    exact congrArg name hv
  · apply eq_of_kind hk
    intro n hn
    exact hname ⟨n, hn⟩

namespace Token

def spellings (tokens : List Token) : List (String × String) :=
  tokens.map fun token => token.lexeme.spelling

theorem length_spellings (tokens : List Token) : (spellings tokens).length = tokens.length :=
  List.length_map ..

theorem map_lexeme_eq_of_spellings_eq {tokens tokens' : List Token}
    (h : spellings tokens = spellings tokens') : tokens.map lexeme = tokens'.map lexeme := by
  apply List.map_injective_iff.mpr spelling_injective
  rw [List.map_map, List.map_map]
  exact h

theorem next_drop (tokens : List Token) (i : Nat) :
    next (tokens.drop i) = tokens[i]?.map lexeme := by
  rw [next, List.head?_map, List.head?_drop]

end Token

/-- No token of another kind lengthens a union. -/
theorem Grammar.closed_of_kind {w : List Lexeme} {next : Option Lexeme}
    (h : ∀ l ∈ next, l.kind ∉ ["|", "array", "<"]) : Closed w next := by
  have hne : ∀ l : Lexeme, l.kind ∈ ["|", "array", "<"] → next ≠ some l := by
    intro l hl hnext
    exact h l hnext hl
  refine ⟨⟨?_, ?_⟩, ?_⟩
  · exact hne brackets (by decide)
  · intro n _
    exact hne openGeneric (by decide)
  · exact hne bar (by decide)

namespace Cursor
variable {c stop : Cursor} {used after : List Token} {e : Expr}

theorem goTo_of_rest_eq (h : c.rest = used ++ after) (hne : used ≠ []) :
    c.goTo after = { c with index := c.index + used.length } := by
  -- Nothing is ahead of a cursor beyond the end, so that this one stands among the tokens.
  have hlength := congrArg List.length h
  have hpos := List.length_pos_iff.mpr hne
  simp only [Cursor.rest, List.length_drop, List.length_append] at hlength
  have hindex : c.tokens.length - after.length = c.index + used.length := by omega
  rw [goTo, hindex]

theorem extract_of_rest_eq (h : c.rest = used ++ after) :
    c.tokens.extract c.index (c.index + used.length) = used := by
  rw [List.extract_eq_take_drop, Nat.add_sub_cancel_left, ← Cursor.rest, h, List.take_left]

theorem rest_eq_extract_append (c : Cursor) (count : Nat) :
    c.rest = c.tokens.extract c.index (c.index + count) ++ c.tokens.drop (c.index + count) := by
  rw [List.extract_eq_take_drop, Nat.add_sub_cancel_left, ← List.drop_drop,
    List.take_append_drop, Cursor.rest]

/-- A union is read at a cursor exactly if the first of the tokens ahead make it up and the token
after these does not lengthen it. The cursor is left behind them. -/
theorem step_readUnion_eq_ok_iff :
    c.step .readUnion = (.ok (.expr e), stop) ↔
      ∃ used after es, c.rest = used ++ after ∧ Alternatives (used.map lexeme) es ∧
        Closed (used.map lexeme) (next after) ∧ e = .ofAlternatives es ∧
        stop = { c with index := c.index + used.length } := by
  rw [step_readUnion]
  constructor
  · intro h
    obtain ⟨used, after, hrest, ⟨es, hes, hc, hread⟩ | ⟨reason, -, hread⟩⟩ :=
      Expr.readAlternatives_cases c.rest
    · rw [hread] at h
      obtain ⟨he, hstop⟩ := Prod.mk.inj h
      have hne : used ≠ [] := mt List.map_eq_nil_iff.mpr hes.ne_nil
      refine ⟨used, after, es, hrest, hes, hc, ?_, ?_⟩
      · exact (Answer.expr.inj (Except.ok.inj he)).symm
      · rw [← hstop, goTo_of_rest_eq hrest hne]
    · rw [hread] at h
      cases h
  · rintro ⟨used, after, es, hrest, hes, hc, rfl, rfl⟩
    have hne : used ≠ [] := mt List.map_eq_nil_iff.mpr hes.ne_nil
    have hread := hes.read rfl hc
    rw [← hrest] at hread
    rw [hread, ← goTo_of_rest_eq hrest hne]

/-- A union that is read between two places of a row of tokens is read in any other row where tokens
of the same kinds and written forms stand, unless a bar, a bracket pair or an opening angle bracket
comes after them. The rest of that row, the positions and the text make no difference. -/
theorem readUnion_local {text text' : String} {tokens tokens' : List Token} {i i' j : Nat}
    (hread : (⟨text, tokens, i⟩ : Cursor).step .readUnion = (.ok (.expr e), ⟨text, tokens, j⟩))
    (hsame : spellings (tokens'.extract i' (i' + (j - i))) = spellings (tokens.extract i j))
    (hnext : ∀ token ∈ tokens'[i' + (j - i)]?, token.lexeme.kind ∉ ["|", "array", "<"]) :
    (⟨text', tokens', i'⟩ : Cursor).step .readUnion =
      (.ok (.expr e), ⟨text', tokens', i' + (j - i)⟩) := by
  obtain ⟨used, after, es, hrest, hes, -, rfl, hstop⟩ := step_readUnion_eq_ok_iff.mp hread
  obtain rfl : j = i + used.length := congrArg Cursor.index hstop
  have hused : tokens.extract i (i + used.length) = used := extract_of_rest_eq hrest
  rw [Nat.add_sub_cancel_left] at hsame hnext ⊢
  rw [hused] at hsame
  have hlength := congrArg List.length hsame
  rw [length_spellings, length_spellings] at hlength
  -- The same lexemes are a union in the other row too, and what comes next there ends it as well.
  apply step_readUnion_eq_ok_iff.mpr
  refine ⟨tokens'.extract i' (i' + used.length), tokens'.drop (i' + used.length), es,
    ?_, ?_, ?_, rfl, ?_⟩
  · exact rest_eq_extract_append ⟨text', tokens', i'⟩ used.length
  · rw [map_lexeme_eq_of_spellings_eq hsame]
    exact hes
  · apply closed_of_kind
    intro l hl
    rw [next_drop] at hl
    obtain ⟨token, htoken, rfl⟩ := Option.map_eq_some_iff.mp hl
    exact hnext token htoken
  · rw [hlength]

/-- The union in a group is read in the same way as the parameter of a generic, with other white
space around its tokens. -/
theorem readUnion_local_parameter :
    ∃ (group generic : List Token) (e : Expr),
      scan "(a|?b[])" = .ok group ∧ scan "x<a | ?b[] >" = .ok generic ∧
      e = .union [.named "a", .named "b[]", .null] ∧
      (⟨"(a|?b[])", group, 1⟩ : Cursor).step .readUnion =
        (.ok (.expr e), ⟨"(a|?b[])", group, 6⟩) ∧
      spellings (generic.extract 2 (2 + (6 - 1))) = spellings (group.extract 1 6) ∧
      (∀ token ∈ generic[2 + (6 - 1)]?, token.lexeme.kind ∉ ["|", "array", "<"]) ∧
      (⟨"x<a | ?b[] >", generic, 2⟩ : Cursor).step .readUnion =
        (.ok (.expr e), ⟨"x<a | ?b[] >", generic, 7⟩) := by
  have hgroup : scan "(a|?b[])" = .ok [⟨.openGroup, 0⟩, ⟨.name "a", 1⟩, ⟨.bar, 2⟩,
      ⟨.question, 3⟩, ⟨.name "b", 4⟩, ⟨.brackets, 5⟩, ⟨.closeGroup, 7⟩] := by decide +kernel
  have hgeneric : scan "x<a | ?b[] >" = .ok [⟨.name "x", 0⟩, ⟨.openGeneric, 1⟩, ⟨.name "a", 2⟩,
      ⟨.bar, 4⟩, ⟨.question, 6⟩, ⟨.name "b", 7⟩, ⟨.brackets, 8⟩, ⟨.closeGeneric, 11⟩] := by
    decide +kernel
  have ha : Term [.name "a"] (.named "a") := .named "a" 0 fun _ => by decide
  have hb : Term [.question, .name "b", .brackets] (.union [.named "b[]", .null]) :=
    .nullable (.named "b" 1 nofun)
  refine ⟨_, _, _, hgroup, hgeneric, rfl, ?read, rfl, by decide,
    readUnion_local ?read rfl (by decide)⟩
  apply step_readUnion_eq_ok_iff.mpr
  exact ⟨[⟨.name "a", 1⟩, ⟨.bar, 2⟩, ⟨.question, 3⟩, ⟨.name "b", 4⟩, ⟨.brackets, 5⟩],
    [⟨.closeGroup, 7⟩], _, rfl, .more ha (.one hb), closed_of_kind (by decide), rfl, rfl⟩

end Cursor

end TypeAnnotation
