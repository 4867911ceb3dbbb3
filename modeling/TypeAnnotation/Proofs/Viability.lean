import TypeAnnotation.Cursor
import TypeAnnotation.Proofs.Acceptance

/-! # The earliest error

A row of kinds is viable if some annotation begins with it. Whatever the reader has taken when it
stops is viable, and it is no longer with the token that it stopped at: the error is reported as
soon as there is one.
-/
namespace TypeAnnotation
open Lexeme

namespace Grammar

/-- The kinds of the lexemes of some annotation. -/
def Derivable (kinds : List String) : Prop := ∃ w e, Derives w e ∧ w.map kind = kinds

/-- The kinds that some annotation begins with. -/
def Viable (kinds : List String) : Prop := ∃ more, Derivable (kinds ++ more)

/-! ## Names do not matter -/

theorem eq_of_kind {l l' : Lexeme} (h : l'.kind = l.kind) (hl : ∀ n, l ≠ name n) : l' = l := by
  cases l <;> cases l' <;> first | rfl | exact absurd rfl (hl _) | simp [kind, value] at h

theorem eq_name_of_kind {l : Lexeme} {n : String} (h : l.kind = (name n).kind) :
    ∃ n', l = name n' := by
  cases l <;> first | exact ⟨_, rfl⟩ | simp [kind, value] at h

/-- A mark inside a word stands at the same place in every word of the same kinds. -/
theorem exists_mark_of_kinds {u v w : List Lexeme} {l : Lexeme} (hl : ∀ n, l ≠ name n)
    (h : u.map kind = (v ++ l :: w).map kind) :
    ∃ v' w', u = v' ++ l :: w' ∧ v'.map kind = v.map kind ∧ w'.map kind = w.map kind := by
  rw [List.map_append, List.map_cons] at h
  obtain ⟨v', u', rfl, hv', hu'⟩ := List.map_eq_append_iff.mp h
  obtain ⟨l', w', rfl, hl', hw'⟩ := List.map_eq_cons_iff.mp hu'
  exact ⟨v', w', by rw [eq_of_kind hl' hl], hv', hw'⟩

theorem exists_first_of_kinds {u w : List Lexeme} {l : Lexeme} (hl : ∀ n, l ≠ name n)
    (h : u.map kind = (l :: w).map kind) : ∃ w', u = l :: w' ∧ w'.map kind = w.map kind := by
  obtain ⟨l', w', rfl, hl', hw'⟩ := List.map_eq_cons_iff.mp h
  exact ⟨w', by rw [eq_of_kind hl' hl], hw'⟩

theorem exists_name_of_kinds {u w : List Lexeme} {n : String}
    (h : u.map kind = (name n :: w).map kind) :
    ∃ n' w', u = name n' :: w' ∧ w'.map kind = w.map kind := by
  obtain ⟨l', w', rfl, hl', hw'⟩ := List.map_eq_cons_iff.mp h
  obtain ⟨n', rfl⟩ := eq_name_of_kind hl'
  exact ⟨n', w', rfl, hw'⟩

theorem eq_replicate_of_kinds {u : List Lexeme} {depth : Nat}
    (h : u.map kind = (List.replicate depth brackets).map kind) :
    u = List.replicate depth brackets := by
  induction depth generalizing u with
  | zero => exact List.map_eq_nil_iff.mp h
  | succ depth ih =>
    obtain ⟨w, rfl, hw⟩ := exists_first_of_kinds (by simp) h
    rw [ih hw, List.replicate_succ]

/-- A name and its bracket pairs are a term, whatever the name is. -/
theorem exists_term_name (n : String) (depth : Nat) :
    ∃ e, Term (name n :: List.replicate depth brackets) e := by
  by_cases h : depth = 0 ∧ Text.lower n = "null"
  · obtain ⟨rfl, hn⟩ := h
    exact ⟨_, .null n hn⟩
  · exact ⟨_, .named n depth fun hd hn => h ⟨hd, hn⟩⟩

mutual

/-- Every word of the same kinds as a term is a term. -/
theorem Term.of_kinds : ∀ {w : List Lexeme} {e : Expr}, Term w e → ∀ {u : List Lexeme},
    u.map kind = w.map kind → ∃ e', Term u e'
  | _, _, .nullable h, u, hu => by
    obtain ⟨v, rfl, hv⟩ := exists_first_of_kinds (by simp) hu
    obtain ⟨e, he⟩ := h.of_kinds hv
    exact ⟨_, .nullable he⟩
  | _, _, .group h depth, u, hu => by
    obtain ⟨v, rfl, hv⟩ := exists_first_of_kinds (by simp) hu
    obtain ⟨inside, after, rfl, hinside, hafter⟩ := exists_mark_of_kinds (by simp) hv
    obtain ⟨es, hes⟩ := h.of_kinds hinside
    rw [eq_replicate_of_kinds hafter]
    exact ⟨_, .group hes depth⟩
  | _, _, .generic n h depth, u, hu => by
    obtain ⟨n', v, rfl, hv⟩ := exists_name_of_kinds hu
    obtain ⟨parameters, rfl, hparameters⟩ := exists_first_of_kinds (by simp) hv
    obtain ⟨inside, after, rfl, hinside, hafter⟩ := exists_mark_of_kinds (by simp) hparameters
    obtain ⟨key, value, hp⟩ := h.of_kinds hinside
    rw [eq_replicate_of_kinds hafter]
    exact ⟨_, .generic n' hp depth⟩
  | _, _, .null n h, u, hu => by
    obtain ⟨n', v, rfl, hv⟩ := exists_name_of_kinds hu
    rw [List.map_eq_nil_iff.mp hv]
    exact exists_term_name n' 0
  | _, _, .named n depth h, u, hu => by
    obtain ⟨n', v, rfl, hv⟩ := exists_name_of_kinds hu
    rw [eq_replicate_of_kinds hv]
    exact exists_term_name n' depth
  | _, _, .bare depth, u, hu => by
    rw [eq_replicate_of_kinds hu]
    exact ⟨_, .bare depth⟩

theorem Parameters.of_kinds : ∀ {w : List Lexeme} {key value : Expr}, Parameters w key value →
    ∀ {u : List Lexeme}, u.map kind = w.map kind → ∃ key' value', Parameters u key' value'
  | _, _, _, .value h, u, hu => by
    obtain ⟨es, hes⟩ := h.of_kinds hu
    exact ⟨_, _, .value hes⟩
  | _, _, _, .keyValue hk h, u, hu => by
    obtain ⟨first, second, rfl, hfirst, hsecond⟩ := exists_mark_of_kinds (by simp) hu
    obtain ⟨ks, hks⟩ := hk.of_kinds hfirst
    obtain ⟨es, hes⟩ := h.of_kinds hsecond
    exact ⟨_, _, .keyValue hks hes⟩

theorem Alternatives.of_kinds : ∀ {w : List Lexeme} {es : List Expr}, Alternatives w es →
    ∀ {u : List Lexeme}, u.map kind = w.map kind → ∃ es', Alternatives u es'
  | _, _, .one h, u, hu => by
    obtain ⟨e, he⟩ := h.of_kinds hu
    exact ⟨_, .one he⟩
  | _, _, .more h hs, u, hu => by
    obtain ⟨first, others, rfl, hfirst, hothers⟩ := exists_mark_of_kinds (by simp) hu
    obtain ⟨e, he⟩ := h.of_kinds hfirst
    obtain ⟨es, hes⟩ := hs.of_kinds hothers
    exact ⟨_, .more he hes⟩

end

/-- The kinds decide whether a row is an annotation. -/
theorem exists_derives_of_kinds {u : List Lexeme} (h : Derivable (u.map kind)) :
    ∃ e, Derives u e := by
  obtain ⟨w, e, ⟨es, hes, -⟩, hw⟩ := h
  obtain ⟨es', hes'⟩ := hes.of_kinds hw.symm
  exact ⟨_, es', hes', rfl⟩

/-- A row that some annotation begins with is completed by lexemes of its own names. -/
theorem exists_derives_of_viable {u : List Lexeme} (h : Viable (u.map kind)) :
    ∃ v e, Derives (u ++ v) e := by
  obtain ⟨more, w, e, hw, hkinds⟩ := h
  obtain ⟨w, v, rfl, hu, hv⟩ := List.map_eq_append_iff.mp hkinds
  have hd : Derivable ((u ++ v).map kind) := ⟨w ++ v, e, hw, by rw [List.map_append, List.map_append, hu]⟩
  obtain ⟨e', he'⟩ := exists_derives_of_kinds hd
  exact ⟨v, e', he'⟩

/-! ## What has been taken can be completed -/

mutual

theorem TermStops.completed : ∀ {w : List Lexeme} {l : Option Lexeme} {reason : Reason},
    TermStops w l reason → ∃ v e, Term (w ++ v) e
  | _, _, _, .start _ => ⟨[brackets], _, .bare 0⟩
  | _, _, _, .nullable h => by
    obtain ⟨v, e, he⟩ := h.completed
    exact ⟨v, _, .nullable he⟩
  | _, _, _, .inGroup h => by
    obtain ⟨v, es, hes⟩ := h.completed
    exact ⟨v ++ [closeGroup], (Expr.ofAlternatives es).arrays 0, by simpa using Term.group hes 0⟩
  | _, _, _, .groupOpen h _ _ => ⟨[closeGroup], _, .group h 0⟩
  | _, _, _, .inGeneric n h => by
    obtain ⟨v, key, value, hp⟩ := h.completed
    exact ⟨v ++ [closeGeneric], (Expr.generic n key value).arrays 0,
      by simpa using Term.generic n hp 0⟩

theorem ParametersStop.completed : ∀ {w : List Lexeme} {l : Option Lexeme} {reason : Reason},
    ParametersStop w l reason → ∃ v key value, Parameters (w ++ v) key value
  | _, _, _, .first h => by
    obtain ⟨v, es, hes⟩ := h.completed
    exact ⟨v, _, _, .value hes⟩
  | _, _, _, .second hk h => by
    obtain ⟨v, es, hes⟩ := h.completed
    have hp := Parameters.keyValue hk hes
    rw [← List.cons_append, ← List.append_assoc] at hp
    exact ⟨v, _, _, hp⟩
  | _, _, _, .stillOpen h _ _ _ => by
    refine ⟨[], ?_⟩
    rw [List.append_nil]
    exact ⟨_, _, h⟩
  | _, _, _, .third hk h => by
    refine ⟨[], ?_⟩
    rw [List.append_nil]
    exact ⟨_, _, .keyValue hk h⟩

theorem UnionStops.completed : ∀ {w : List Lexeme} {l : Option Lexeme} {reason : Reason},
    UnionStops w l reason → ∃ v es, Alternatives (w ++ v) es
  | _, _, _, .one h => by
    obtain ⟨v, e, he⟩ := h.completed
    exact ⟨v, _, .one he⟩
  | _, _, _, .more h hs => by
    obtain ⟨v, es, hes⟩ := hs.completed
    have hmore := Alternatives.more h hes
    rw [← List.cons_append, ← List.append_assoc] at hmore
    exact ⟨v, _, hmore⟩

end

/-! ## What comes next cannot follow -/

def tokensOf (w : List Lexeme) : List Token := w.map fun l => ⟨l, 0⟩

@[simp] theorem map_lexeme_tokensOf (w : List Lexeme) : (tokensOf w).map Token.lexeme = w := by
  rw [tokensOf, List.map_map]
  exact List.map_id w

theorem Derives.outcome {w : List Lexeme} {e : Expr} (h : Derives w e) :
    ∃ es, (Expr.readAlternatives (tokensOf w)).outcome = .ok (es, []) := by
  obtain ⟨es, hes, -⟩ := h
  have hread : (Expr.readAlternatives (tokensOf w ++ [])).outcome = .ok (es, []) :=
    hes.read (map_lexeme_tokensOf w) ⟨⟨nofun, nofun⟩, nofun⟩
  rw [List.append_nil] at hread
  exact ⟨es, hread⟩

/-- No annotation goes on where reading a union stops. -/
theorem UnionStops.not_derives {w v : List Lexeme} {reason : Reason}
    (h : UnionStops w v.head? reason) (e : Expr) : ¬ Derives (w ++ v) e := by
  intro hd
  obtain ⟨es, hes⟩ := hd.outcome
  have hstop : (Expr.readAlternatives (tokensOf w ++ tokensOf v)).outcome =
      .error (reason, tokensOf v) :=
    h.read (map_lexeme_tokensOf w) (by rw [Token.next, map_lexeme_tokensOf])
  rw [tokensOf, List.map_append] at hes
  cases hes.symm.trans hstop

/-- No annotation goes on after a union that the next lexeme does not lengthen. -/
theorem Closed.not_derives {w v : List Lexeme} {l : Lexeme} {es : List Expr}
    (hc : Closed w (some l)) (h : Alternatives w es) (e : Expr) : ¬ Derives (w ++ l :: v) e := by
  intro hd
  obtain ⟨es', hes'⟩ := hd.outcome
  have hread : (Expr.readAlternatives (tokensOf w ++ tokensOf (l :: v))).outcome =
      .ok (es, tokensOf (l :: v)) := h.read (map_lexeme_tokensOf w) hc
  rw [tokensOf, List.map_append] at hes'
  have hrest := (Prod.mk.inj (Except.ok.inj (hes'.symm.trans hread))).2
  exact nomatch hrest

/-- The kinds that cannot go on: what was taken is viable, and no annotation goes on from it with
the next lexeme. -/
theorem not_viable_of_not_derives {w : List Lexeme} {l : Lexeme}
    (h : ∀ (v : List Lexeme) (e : Expr), ¬ Derives (w ++ l :: v) e) :
    ¬ Viable ((w ++ [l]).map kind) := by
  intro hv
  obtain ⟨v, e, he⟩ := exists_derives_of_viable hv
  rw [List.append_assoc, List.singleton_append] at he
  exact h v e he

end Grammar

/-! ## The cursor at the error -/

namespace Cursor
open Grammar Token

def firstFailure (c : Cursor) : List Step → Option (Failure × Cursor)
  | [] => none
  | s :: steps =>
    match c.step s with
    | (.error failure, stop) => some (failure, stop)
    | (.ok _, next) => next.firstFailure steps

theorem goTo_eq {text : String} {used rest : List Token} {i : Nat} :
    (⟨text, used ++ rest, i⟩ : Cursor).goTo rest = ⟨text, used ++ rest, used.length⟩ := by
  simp [goTo]

theorem rest_eq (text : String) (used rest : List Token) :
    (⟨text, used ++ rest, used.length⟩ : Cursor).rest = rest := by
  simp [Cursor.rest]

theorem step_readUnion (c : Cursor) :
    c.step .readUnion = match (Expr.readAlternatives c.rest).outcome with
      | .ok (es, rest) => (.ok (.expr (Expr.ofAlternatives es)), c.goTo rest)
      | .error (reason, rest) => (.error ((c.goTo rest).failure reason), c.goTo rest) := by
  rw [step, Expr.readUnion]
  cases Expr.readAlternatives c.rest <;> rfl

/-- Where a row of tokens is refused: what was taken is viable, no annotation goes on with the next
token, and there the cursor stands when it first fails. -/
theorem exists_stop {text : String} {tokens : List Token} {error : SyntaxError}
    (h : Expr.ofTokens text tokens = .error error) :
    ∃ used rest reason, tokens = used ++ rest ∧ error = .at text tokens rest reason ∧
      firstFailure ⟨text, tokens, 0⟩ [.readUnion, .expectEnd] =
        some (.syntaxError error, ⟨text, tokens, used.length⟩) ∧
      Viable ((used.map lexeme).map kind) ∧
      ∀ v e, v.head? = next rest → ¬ Derives (used.map lexeme ++ v) e := by
  rw [Expr.ofTokens_eq_ofOutcome] at h
  obtain ⟨used, rest, rfl, hread⟩ := Expr.readAlternatives_cases tokens
  have hstart : (⟨text, used ++ rest, 0⟩ : Cursor).rest = used ++ rest := rfl
  rcases hread with ⟨es, hes, hc, hread⟩ | ⟨reason, hr, hread⟩
  · rw [hread] at h
    cases rest with
    | nil => cases h
    | cons token rest =>
      obtain rfl := Except.error.inj h
      refine ⟨used, token :: rest, _, rfl, rfl, ?_, ⟨[], _, _, ⟨es, hes, rfl⟩, by simp⟩, ?_⟩
      · rw [firstFailure, step_readUnion, hstart, hread]
        simp only [goTo_eq, firstFailure, step, rest_eq, failure]
      · intro v e hv
        obtain ⟨after, rfl⟩ := List.head?_eq_some_iff.mp hv
        exact hc.not_derives hes e
  · rw [hread] at h
    obtain rfl := Except.error.inj h
    obtain ⟨v, es, hes⟩ := hr.completed
    refine ⟨used, rest, reason, rfl, rfl, ?_, ⟨v.map kind, _, _, ⟨es, hes, rfl⟩, by simp⟩, ?_⟩
    · rw [firstFailure, step_readUnion, hstart, hread]
      simp only [goTo_eq, rest_eq, failure]
    · intro v e hv
      exact UnionStops.not_derives (hv ▸ hr) e

end Cursor

def Token.kinds (tokens : List Token) : List String := tokens.map (·.lexeme.kind)

theorem Token.kinds_eq (tokens : List Token) :
    Token.kinds tokens = (tokens.map Token.lexeme).map kind := by
  rw [List.map_map]
  rfl

open Grammar in
/-- Every error holds the text. A text without tokens is called empty at its end. Of any other text
that is refused, the cursor first fails at the earliest token that no annotation has after those
before it, or at the end if all the tokens are viable but no annotation; there the error is. -/
theorem Expr.parse_error_is_earliest (text : String) :
    (∀ error, parse text = .error error → error.text = text) ∧
    ∀ tokens, Token.scan text = .ok tokens →
      (tokens = [] → ∃ error, parse text = .error error ∧
        error.reason.message = "Empty annotation" ∧ error.position = text.length) ∧
      (tokens ≠ [] → ∀ error, parse text = .error error →
        ∃ stop : Cursor,
          Cursor.firstFailure ⟨text, tokens, 0⟩ [.readUnion, .expectEnd] =
            some (.syntaxError error, stop) ∧
          stop.index ≤ tokens.length ∧
          Viable (Token.kinds (tokens.take stop.index)) ∧
          (∀ h : stop.index < tokens.length,
            ¬ Viable (Token.kinds (tokens.take (stop.index + 1))) ∧
            error.position = tokens[stop.index].position) ∧
          (stop.index = tokens.length →
            ¬ Derivable (Token.kinds tokens) ∧ error.position = text.length)) := by
  refine ⟨fun error h => text_of_parse_eq_error h, fun tokens hs => ⟨?_, fun _ error h => ?_⟩⟩
  · rintro rfl
    refine ⟨⟨.noTokens, text.length, text⟩, ?_, rfl, rfl⟩
    have ht : ofTokens text [] = .error ⟨.noTokens, text.length, text⟩ := by
      rw [ofTokens_eq_ofOutcome, outcome_readAlternatives, outcome_readTerm_nil]
      rfl
    rw [parse, hs]
    exact ht
  · have ht : ofTokens text tokens = .error error := by
      rw [← h, parse, hs]
      rfl
    obtain ⟨used, rest, reason, rfl, rfl, hfail, hviable, hstop⟩ := Cursor.exists_stop ht
    refine ⟨_, hfail, by simp, ?_, ?_, ?_⟩
    · rwa [Token.kinds_eq, List.take_left]
    · intro hi
      cases rest with
      | nil => simp at hi
      | cons token rest =>
        constructor
        · have hnot : ¬ Viable ((used.map Token.lexeme ++ [token.lexeme]).map kind) :=
            not_viable_of_not_derives fun v e => hstop (token.lexeme :: v) e rfl
          rw [Token.kinds_eq, List.take_length_add_append]
          simpa using hnot
        · simp [SyntaxError.at, Token.placeOf]
    · intro hi
      obtain rfl : rest = [] := by simpa using hi
      constructor
      · rw [Token.kinds_eq, List.append_nil]
        intro hd
        obtain ⟨e, he⟩ := exists_derives_of_kinds hd
        rw [← List.append_nil (used.map Token.lexeme)] at he
        exact hstop [] e rfl he
      · rfl

open Grammar in
theorem Expr.parse_stray : parse "int)" = .error ⟨.unexpectedValue ")", 3, "int)"⟩ := by
  have hscan : Token.scan "int)" = .ok [⟨.name "int", 0⟩, ⟨.closeGroup, 3⟩] := by decide +kernel
  have hint : Alternatives [.name "int"] [named "int"] := .one (.named "int" 0 fun _ => by decide)
  have hread : (readAlternatives ([⟨.name "int", 0⟩] ++ [⟨.closeGroup, 3⟩])).outcome =
      .ok ([named "int"], [⟨.closeGroup, 3⟩]) :=
    hint.read rfl ⟨ends_some (by decide) (by decide), by decide⟩
  rw [parse, hscan]
  exact (ofTokens_eq_ofOutcome _ _).trans (congrArg (ofOutcome "int)" _) hread)

open Grammar in
theorem Expr.parse_open_bar : parse "int|" = .error ⟨.expectedTypeName, 4, "int|"⟩ := by
  have hscan : Token.scan "int|" = .ok [⟨.name "int", 0⟩, ⟨.bar, 3⟩] := by decide +kernel
  have hstops : UnionStops [.name "int", .bar] none .expectedTypeName :=
    .more (.named "int" 0 fun _ => by decide) (.one (.start fun l hl => absurd hl (by simp)))
  have hread : (readAlternatives ([⟨.name "int", 0⟩, ⟨.bar, 3⟩] ++ [])).outcome =
      .error (.expectedTypeName, []) :=
    hstops.read rfl rfl
  rw [parse, hscan]
  exact (ofTokens_eq_ofOutcome _ _).trans (congrArg (ofOutcome "int|" _) hread)

open Grammar in
/-- A stray parenthesis is refused where it stands, and a text that ends too early at its end. -/
theorem Expr.parse_error_is_earliest_int :
    (∃ error, parse "int)" = .error error ∧ error.text = "int)" ∧ error.position = 3 ∧
      Viable ["name"] ∧ ¬ Viable ["name", ")"]) ∧
    ∃ error, parse "int|" = .error error ∧ error.text = "int|" ∧ error.position = 4 ∧
      Viable ["name", "|"] ∧ ¬ Derivable ["name", "|"] := by
  have hindex : ∀ i : Nat, i ≤ 2 → i = 0 ∨ i = 1 ∨ i = 2 := fun i hi => by omega
  constructor
  · have hscan : Token.scan "int)" = .ok [⟨.name "int", 0⟩, ⟨.closeGroup, 3⟩] := by decide +kernel
    obtain ⟨htext, htokens⟩ := parse_error_is_earliest "int)"
    obtain ⟨⟨source, tokens, i⟩, -, hi, hviable, hbefore, hend⟩ :=
      (htokens _ hscan).2 (List.cons_ne_nil _ _) _ parse_stray
    rcases hindex i hi with rfl | rfl | rfl
    · have hplace : 3 = 0 := (hbefore (Nat.zero_lt_succ _)).2
      cases hplace
    · exact ⟨_, parse_stray, htext _ parse_stray, rfl, hviable, (hbefore (Nat.lt_succ_self _)).1⟩
    · have hplace : 3 = 4 := (hend rfl).2
      cases hplace
  · have hscan : Token.scan "int|" = .ok [⟨.name "int", 0⟩, ⟨.bar, 3⟩] := by decide +kernel
    obtain ⟨htext, htokens⟩ := parse_error_is_earliest "int|"
    obtain ⟨⟨source, tokens, i⟩, -, hi, hviable, hbefore, hend⟩ :=
      (htokens _ hscan).2 (List.cons_ne_nil _ _) _ parse_open_bar
    rcases hindex i hi with rfl | rfl | rfl
    · have hplace : 4 = 0 := (hbefore (Nat.zero_lt_succ _)).2
      cases hplace
    · have hplace : 4 = 3 := (hbefore (Nat.lt_succ_self _)).2
      cases hplace
    · exact ⟨_, parse_open_bar, htext _ parse_open_bar, rfl, hviable, (hend rfl).1⟩

end TypeAnnotation
