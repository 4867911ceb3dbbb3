import TypeAnnotation.Expr.Parse
import TypeAnnotation.Proofs.NullName
import TypeAnnotation.Proofs.Stops

/-! # Reading by the grammar

What the routines of the reader come to is a value with the tokens after it, or a reason with the
tokens ahead. One equation for each routine says so without the bounds that make it end. From these,
every term of the grammar that ends is read as its expression, and every stop is one of the reader.
-/
namespace TypeAnnotation
open Lexeme Grammar

abbrev Outcome (α : Type) := Except (Reason × List Token) (α × List Token)

/-- What reading comes to, apart from its bound. -/
def Reading.outcome {α : Type} {tokens : List Token} : Reading α tokens → Outcome α
  | .value a rest _ => .ok (a, rest)
  | .stopped reason rest => .error (reason, rest)

namespace Token

def next (rest : List Token) : Option Lexeme := (rest.map lexeme).head?

@[simp] theorem next_cons (l : Lexeme) (p : Nat) (rest : List Token) :
    next (⟨l, p⟩ :: rest) = some l := rfl

def expect {α : Type} (mark : Lexeme) (reason : Reason) (rest : List Token)
    (goOn : List Token → Outcome α) : Outcome α :=
  match after? mark rest with
  | some after => goOn after
  | none => .error (reason, rest)

theorem after?_cons (mark : Lexeme) (p : Nat) (rest : List Token) :
    after? mark (⟨mark, p⟩ :: rest) = some ⟨rest, Nat.lt_succ_self rest.length⟩ := by
  simp [after?]

theorem after?_eq_none {mark : Lexeme} {rest : List Token} (h : next rest ≠ some mark) :
    after? mark rest = none := by
  cases rest with
  | nil => rfl
  | cons token rest =>
    have hm : token.lexeme ≠ mark := fun hm => h (by simp [next, hm])
    simp [after?, hm]

variable {α : Type}

theorem expect_cons (mark : Lexeme) (reason : Reason) (p : Nat) (rest : List Token)
    (goOn : List Token → Outcome α) :
    expect mark reason (⟨mark, p⟩ :: rest) goOn = goOn rest := by
  rw [expect, after?_cons]

theorem expect_eq_error {mark : Lexeme} {rest : List Token} (h : next rest ≠ some mark)
    (reason : Reason) (goOn : List Token → Outcome α) :
    expect mark reason rest goOn = .error (reason, rest) := by
  rw [expect, after?_eq_none h]

end Token

namespace Expr
open Token

def withBrackets (e : Expr) (rest : List Token) : Expr × List Token :=
  (e.arrays (readBrackets rest).1, (readBrackets rest).2)

theorem outcome_readTerm_nil : (readTerm []).outcome = .error (.expectedTypeName, []) := by
  rw [readTerm]
  rfl

theorem outcome_readTerm_question (p : Nat) (rest : List Token) :
    (readTerm (⟨question, p⟩ :: rest)).outcome =
      (readTerm rest).outcome.map fun (inner, rest) =>
        (union (inner.alternatives ++ [null]), rest) := by
  rw [readTerm]
  cases readTerm rest <;> rfl

theorem outcome_readTerm_openGroup (p : Nat) (rest : List Token) :
    (readTerm (⟨openGroup, p⟩ :: rest)).outcome =
      (readAlternatives rest).outcome.bind fun (alternatives, rest) =>
        expect closeGroup (.expectedKind ")") rest fun after =>
          .ok ((ofAlternatives alternatives).withBrackets after) := by
  rw [readTerm]
  cases readAlternatives rest with
  | stopped => rfl
  | value alternatives rest shorter =>
    simp only [Reading.outcome, Except.bind, expect]
    cases after? closeGroup rest <;> rfl

theorem outcome_readTerm_name (n : String) (p : Nat) {rest : List Token}
    (h : next rest ≠ some openGeneric) :
    (readTerm (⟨name n, p⟩ :: rest)).outcome =
      .ok (ofName n (readBrackets rest).1, (readBrackets rest).2) := by
  rw [readTerm, after?_eq_none h]
  rfl

theorem outcome_readTerm_generic (n : String) (p q : Nat) (rest : List Token) :
    (readTerm (⟨name n, p⟩ :: ⟨openGeneric, q⟩ :: rest)).outcome =
      (readGeneric n (⟨openGeneric, q⟩ :: rest)).outcome.map fun (container, rest) =>
        container.withBrackets rest := by
  rw [readTerm]
  simp only [after?_cons, Option.isSome_some, if_true]
  cases readGeneric n (⟨openGeneric, q⟩ :: rest) <;> rfl

theorem outcome_readTerm_brackets (p : Nat) (rest : List Token) :
    (readTerm (⟨brackets, p⟩ :: rest)).outcome =
      .ok (named (bracketed "" ((readBrackets rest).1 + 1)), (readBrackets rest).2) := by
  rw [readTerm]
  rfl

theorem outcome_readTerm_of_not_startsTerm {token : Token} (h : startsTerm token.lexeme = false)
    (rest : List Token) :
    (readTerm (token :: rest)).outcome = .error (.expectedTypeName, token :: rest) := by
  obtain ⟨l, p⟩ := token
  cases l with
  | name | brackets | question | openGroup => simp [startsTerm] at h
  | bar | closeGroup | openGeneric | closeGeneric | comma =>
    rw [readTerm]
    · rfl
    all_goals simp

theorem outcome_readAlternatives (tokens : List Token) :
    (readAlternatives tokens).outcome =
      (readTerm tokens).outcome.bind fun (term, rest) =>
        match after? bar rest with
        | none => .ok (term.alternatives, rest)
        | some after => (readAlternatives after).outcome.map fun (others, rest) =>
          (term.alternatives ++ others, rest) := by
  rw [readAlternatives]
  cases readTerm tokens with
  | stopped => rfl
  | value term rest shorter =>
    simp only [Reading.outcome, Except.bind]
    cases after? bar rest with
    | none => rfl
    | some after =>
      simp only
      cases readAlternatives after.1 <;> rfl

def outcomeOfParameters (n : String) (key value : Expr) (rest : List Token) : Outcome Expr :=
  if (after? comma rest).isSome then .error (.tooManyParameters, rest)
  else expect .closeGeneric (.expectedKind ">") rest fun after => .ok (generic n key value, after)

theorem outcome_closeGeneric (n : String) (key value : Expr) (rest tokens : List Token)
    (shorter : rest.length < tokens.length) :
    (closeGeneric n key value rest tokens shorter).outcome =
      outcomeOfParameters n key value rest := by
  simp only [closeGeneric, outcomeOfParameters, expect]
  split
  · rfl
  · cases after? .closeGeneric rest <;> rfl

theorem outcome_readGeneric (n : String) (q : Nat) (inside : List Token) :
    (readGeneric n (⟨openGeneric, q⟩ :: inside)).outcome =
      (readAlternatives inside).outcome.bind fun (first, rest) =>
        match after? comma rest with
        | none => outcomeOfParameters n defaultKey (ofAlternatives first) rest
        | some after => (readAlternatives after).outcome.bind fun (second, rest) =>
          outcomeOfParameters n (ofAlternatives first) (ofAlternatives second) rest := by
  rw [readGeneric]
  simp only [after?_cons]
  cases readAlternatives inside with
  | stopped => rfl
  | value first rest shorter =>
    simp only [Reading.outcome, Except.bind]
    cases after? comma rest with
    | none => exact outcome_closeGeneric ..
    | some after =>
      simp only
      cases readAlternatives after.1 with
      | stopped => rfl
      | value => exact outcome_closeGeneric ..

theorem readBrackets_append {used rest : List Token} {depth : Nat}
    (hu : used.map lexeme = List.replicate depth brackets) (hn : next rest ≠ some brackets) :
    readBrackets (used ++ rest) = (depth, rest) := by
  induction depth generalizing used with
  | zero =>
    rw [List.map_eq_nil_iff.mp hu, List.nil_append]
    cases rest with
    | nil => rw [readBrackets]; nofun
    | cons token rest =>
      rw [readBrackets]
      rintro q rest' h
      obtain ⟨rfl, rfl⟩ := List.cons.inj h
      exact hn rfl
  | succ depth ih =>
    obtain ⟨⟨l, p⟩, used, rfl, rfl, hused⟩ := List.map_eq_cons_iff.mp hu
    rw [List.cons_append, readBrackets, ih hused]

theorem withBrackets_append {used rest : List Token} {depth : Nat} (e : Expr)
    (hu : used.map lexeme = List.replicate depth brackets) (hn : next rest ≠ some brackets) :
    e.withBrackets (used ++ rest) = (e.arrays depth, rest) := by
  rw [withBrackets, readBrackets_append hu hn]

theorem ofName_null {n : String} (h : Text.lower n = "null") : ofName n 0 = null := by
  simp [ofName, (isNullName_iff n).mpr h]

theorem ofName_named {n : String} {depth : Nat} (h : depth = 0 → Text.lower n ≠ "null") :
    ofName n depth = named (bracketed n depth) := by
  have hn : ¬ (depth = 0 ∧ isNullName n = true) :=
    fun hd => h hd.1 ((isNullName_iff n).mp hd.2)
  simp [ofName, hn]

end Expr

namespace Grammar
open Token TypeAnnotation.Expr

/-- A mark inside a word and the token that stands for it. -/
theorem exists_mark {used : List Token} {v w : List Lexeme} {l : Lexeme}
    (h : used.map lexeme = v ++ l :: w) :
    ∃ before after p, used = before ++ ⟨l, p⟩ :: after ∧ before.map lexeme = v ∧
      after.map lexeme = w := by
  obtain ⟨before, rest, rfl, hbefore, hrest⟩ := List.map_eq_append_iff.mp h
  obtain ⟨⟨l, p⟩, after, rfl, rfl, hafter⟩ := List.map_eq_cons_iff.mp hrest
  exact ⟨before, after, p, rfl, hbefore, hafter⟩

theorem exists_first {used : List Token} {w : List Lexeme} {l : Lexeme}
    (h : used.map lexeme = l :: w) :
    ∃ p after, used = ⟨l, p⟩ :: after ∧ after.map lexeme = w := by
  obtain ⟨⟨l, p⟩, after, rfl, rfl, hafter⟩ := List.map_eq_cons_iff.mp h
  exact ⟨p, after, rfl, hafter⟩

/-- A mark that is neither a bracket pair, a bar nor an angle bracket closes every word. -/
theorem closed_mark {w : List Lexeme} {l : Lexeme} {p : Nat} {rest : List Token}
    (h : l = closeGroup ∨ l = .closeGeneric ∨ l = comma) : Closed w (next (⟨l, p⟩ :: rest)) := by
  rcases h with rfl | rfl | rfl <;> exact ⟨ends_some (by simp) (by simp), by simp⟩

theorem outcomeOfParameters_cons (n : String) (key value : Expr) (q : Nat) (rest : List Token) :
    outcomeOfParameters n key value (⟨.closeGeneric, q⟩ :: rest) =
      .ok (generic n key value, rest) := by
  rw [outcomeOfParameters, after?_eq_none (by simp), expect_cons]
  rfl

mutual

/-- A term that ends is read as what it stands for. -/
theorem Term.read : ∀ {w : List Lexeme} {e : Expr}, Term w e → ∀ {used rest : List Token},
    used.map lexeme = w → Ends w (next rest) → (readTerm (used ++ rest)).outcome = .ok (e, rest)
  | _, _, .nullable h, used, rest, hu, he => by
    obtain ⟨p, inner, rfl, hinner⟩ := exists_first hu
    rw [List.cons_append, outcome_readTerm_question, h.read hinner (he.of_cons h.ne_nil)]
    rfl
  | _, _, .group h depth, used, rest, hu, he => by
    obtain ⟨p, inner, rfl, hinner⟩ := exists_first hu
    obtain ⟨inside, after, q, rfl, hinside, hafter⟩ := exists_mark hinner
    rw [List.cons_append, outcome_readTerm_openGroup, List.append_assoc, List.cons_append,
      h.read hinside (closed_mark (.inl rfl))]
    simp only [Except.bind, expect_cons, withBrackets_append _ hafter he.1]
  | _, _, .generic n h depth, used, rest, hu, he => by
    obtain ⟨p, inner, rfl, hinner⟩ := exists_first hu
    obtain ⟨q, parameters, rfl, hparameters⟩ := exists_first hinner
    obtain ⟨inside, after, r, rfl, hinside, hafter⟩ := exists_mark hparameters
    rw [List.cons_append, List.cons_append, outcome_readTerm_generic, List.append_assoc,
      List.cons_append, h.read hinside (closed_mark (.inr (.inl rfl))) (by simp) n q,
      outcomeOfParameters_cons]
    simp only [Except.map, withBrackets_append _ hafter he.1]
  | _, _, .null n h, used, rest, hu, he => by
    obtain ⟨p, inner, rfl, hinner⟩ := exists_first hu
    obtain rfl := List.map_eq_nil_iff.mp hinner
    have hb : readBrackets ([] ++ rest) = (0, rest) := readBrackets_append hinner he.1
    rw [List.nil_append] at hb
    rw [List.cons_append, List.nil_append, outcome_readTerm_name n p (he.2 n rfl), hb,
      ofName_null h]
  | _, _, .named n depth h, used, rest, hu, he => by
    obtain ⟨p, inner, rfl, hinner⟩ := exists_first hu
    have hg : next (inner ++ rest) ≠ some openGeneric := by
      cases depth with
      | zero =>
        rw [List.map_eq_nil_iff.mp hinner]
        exact he.2 n rfl
      | succ depth =>
        obtain ⟨q, others, rfl, -⟩ := exists_first hinner
        simp
    rw [List.cons_append, outcome_readTerm_name n p hg, readBrackets_append hinner he.1,
      ofName_named h]
  | _, _, .bare depth, used, rest, hu, he => by
    obtain ⟨p, inner, rfl, hinner⟩ := exists_first hu
    rw [List.cons_append, outcome_readTerm_brackets, readBrackets_append hinner he.1]

/-- After parameters that nothing lengthens it depends on the next mark what the generic comes to. -/
theorem Parameters.read : ∀ {w : List Lexeme} {key value : Expr}, Parameters w key value →
    ∀ {used rest : List Token}, used.map lexeme = w → Closed w (next rest) →
    next rest ≠ some comma → ∀ (n : String) (p : Nat),
    (readGeneric n (⟨openGeneric, p⟩ :: (used ++ rest))).outcome =
      outcomeOfParameters n key value rest
  | _, _, _, .value h, used, rest, hu, hc, hm, n, p => by
    rw [outcome_readGeneric, h.read hu hc]
    simp only [Except.bind, after?_eq_none hm]
  | _, _, _, .keyValue hk h, used, rest, hu, hc, hm, n, p => by
    obtain ⟨first, second, q, rfl, hfirst, hsecond⟩ := exists_mark hu
    rw [outcome_readGeneric, List.append_assoc, List.cons_append,
      hk.read hfirst (closed_mark (.inr (.inr rfl)))]
    simp only [Except.bind, after?_cons, h.read hsecond (hc.of_append_cons h.ne_nil)]

/-- Alternatives that nothing lengthens are read as what they stand for. -/
theorem Alternatives.read : ∀ {w : List Lexeme} {es : List Expr}, Alternatives w es →
    ∀ {used rest : List Token}, used.map lexeme = w → Closed w (next rest) →
    (readAlternatives (used ++ rest)).outcome = .ok (es, rest)
  | _, _, .one h, used, rest, hu, hc => by
    rw [outcome_readAlternatives, h.read hu hc.1]
    simp only [Except.bind, after?_eq_none hc.2]
  | _, _, .more h hs, used, rest, hu, hc => by
    obtain ⟨first, others, p, rfl, hfirst, hothers⟩ := exists_mark hu
    rw [outcome_readAlternatives, List.append_assoc, List.cons_append,
      h.read hfirst (ends_some (by simp) (by simp))]
    simp only [Except.bind, after?_cons, hs.read hothers (hc.of_append_cons hs.ne_nil), Except.map]

end

/-- A third parameter is refused, and anything else that does not close the generic. -/
theorem outcomeOfParameters_comma (n : String) (key value : Expr) {rest : List Token}
    (h : next rest = some comma) :
    outcomeOfParameters n key value rest = .error (.tooManyParameters, rest) := by
  cases rest with
  | nil => simp [next] at h
  | cons token rest =>
    obtain ⟨l, p⟩ := token
    obtain rfl : l = comma := by simpa using h
    rw [outcomeOfParameters, after?_cons]
    rfl

theorem outcomeOfParameters_open (n : String) (key value : Expr) {rest : List Token}
    (hm : next rest ≠ some comma) (h : next rest ≠ some .closeGeneric) :
    outcomeOfParameters n key value rest = .error (.expectedKind ">", rest) := by
  rw [outcomeOfParameters, after?_eq_none hm, expect_eq_error h]
  rfl

mutual

/-- Where reading a term stops by the grammar, the reader stops. -/
theorem TermStops.read : ∀ {w : List Lexeme} {l : Option Lexeme} {reason : Reason},
    TermStops w l reason → ∀ {used rest : List Token}, used.map lexeme = w → next rest = l →
    (readTerm (used ++ rest)).outcome = .error (reason, rest)
  | _, _, _, .start h, used, rest, hu, hn => by
    rw [List.map_eq_nil_iff.mp hu, List.nil_append]
    cases rest with
    | nil => exact outcome_readTerm_nil
    | cons token rest => exact outcome_readTerm_of_not_startsTerm (h _ hn.symm) rest
  | _, _, _, .nullable h, used, rest, hu, hn => by
    obtain ⟨p, inner, rfl, hinner⟩ := exists_first hu
    rw [List.cons_append, outcome_readTerm_question, h.read hinner hn]
    rfl
  | _, _, _, .inGroup h, used, rest, hu, hn => by
    obtain ⟨p, inner, rfl, hinner⟩ := exists_first hu
    rw [List.cons_append, outcome_readTerm_openGroup, h.read hinner hn]
    rfl
  | _, _, _, .groupOpen h hc hg, used, rest, hu, hn => by
    subst hn
    obtain ⟨p, inner, rfl, hinner⟩ := exists_first hu
    rw [List.cons_append, outcome_readTerm_openGroup, h.read hinner hc]
    simp only [Except.bind, expect_eq_error hg]
  | _, _, _, .inGeneric n h, used, rest, hu, hn => by
    obtain ⟨p, inner, rfl, hinner⟩ := exists_first hu
    obtain ⟨q, parameters, rfl, hparameters⟩ := exists_first hinner
    rw [List.cons_append, List.cons_append, outcome_readTerm_generic, h.read hparameters hn n q]
    rfl

theorem ParametersStop.read : ∀ {w : List Lexeme} {l : Option Lexeme} {reason : Reason},
    ParametersStop w l reason → ∀ {used rest : List Token}, used.map lexeme = w → next rest = l →
    ∀ (n : String) (p : Nat),
    (readGeneric n (⟨openGeneric, p⟩ :: (used ++ rest))).outcome = .error (reason, rest)
  | _, _, _, .first h, used, rest, hu, hn, n, p => by
    rw [outcome_readGeneric, h.read hu hn]
    rfl
  | _, _, _, .second hk h, used, rest, hu, hn, n, p => by
    obtain ⟨first, second, q, rfl, hfirst, hsecond⟩ := exists_mark hu
    rw [outcome_readGeneric, List.append_assoc, List.cons_append,
      hk.read hfirst (closed_mark (.inr (.inr rfl)))]
    simp only [Except.bind, after?_cons, h.read hsecond hn]
  | _, _, _, .stillOpen h hc hm hg, used, rest, hu, hn, n, p => by
    subst hn
    rw [h.read hu hc hm, outcomeOfParameters_open n _ _ hm hg]
  | _, _, _, .third hk h, used, rest, hu, hn, n, p => by
    obtain ⟨first, second, q, rfl, hfirst, hsecond⟩ := exists_mark hu
    rw [outcome_readGeneric, List.append_assoc, List.cons_append,
      hk.read hfirst (closed_mark (.inr (.inr rfl)))]
    have hc : Closed (second.map lexeme) (next rest) := by
      rw [hn]
      exact ⟨ends_some (by simp) (by simp), by simp⟩
    simp only [Except.bind, after?_cons, h.read hsecond (hsecond ▸ hc),
      outcomeOfParameters_comma n _ _ hn]

theorem UnionStops.read : ∀ {w : List Lexeme} {l : Option Lexeme} {reason : Reason},
    UnionStops w l reason → ∀ {used rest : List Token}, used.map lexeme = w → next rest = l →
    (readAlternatives (used ++ rest)).outcome = .error (reason, rest)
  | _, _, _, .one h, used, rest, hu, hn => by
    rw [outcome_readAlternatives, h.read hu hn]
    rfl
  | _, _, _, .more h hs, used, rest, hu, hn => by
    obtain ⟨first, others, p, rfl, hfirst, hothers⟩ := exists_mark hu
    rw [outcome_readAlternatives, List.append_assoc, List.cons_append,
      h.read hfirst (ends_some (by simp) (by simp))]
    simp only [Except.bind, after?_cons, hs.read hothers hn, Except.map]

end

end Grammar

end TypeAnnotation
