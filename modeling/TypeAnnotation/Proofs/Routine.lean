import TypeAnnotation.Cursor.Routine
import TypeAnnotation.Proofs.Canonical
import TypeAnnotation.Proofs.Viability

/-! # The steps of a cursor move by move

Every routine that looks at the next token and takes it ends where the step that it stands for ends,
with the same answer or failure. So no step of reading goes on forever, and none of them takes a
token that is not there.
-/
namespace TypeAnnotation
open Lexeme Token TypeAnnotation.Expr

def Outcome.rest {α : Type} : Outcome α → List Token
  | .ok (_, rest) => rest
  | .error (_, rest) => rest

namespace Token

def nextKind : List Token → String
  | token :: _ => token.lexeme.kind
  | [] => ""

/-- The kind tells every mark. -/
theorem nextKind_eq_iff {mark : Lexeme} (hm : ∀ n, mark ≠ name n) (tokens : List Token) :
    nextKind tokens = mark.kind ↔ next tokens = some mark := by
  cases tokens with
  | nil => cases mark <;> simp [nextKind, next, kind, value]
  | cons token rest =>
    constructor
    · intro h
      rw [next, List.map_cons, List.head?_cons, Grammar.eq_of_kind h hm]
    · intro h
      rw [nextKind, Option.some.inj h]

theorem exists_cons_of_next {mark : Lexeme} {tokens : List Token} (h : next tokens = some mark) :
    ∃ p rest, tokens = ⟨mark, p⟩ :: rest := by
  match tokens with
  | ⟨l, p⟩ :: rest =>
    obtain rfl : l = mark := Option.some.inj h
    exact ⟨p, rest, rfl⟩

end Token

namespace Expr

theorem readBrackets_of_next_ne {tokens : List Token} (h : next tokens ≠ some brackets) :
    readBrackets tokens = (0, tokens) := by
  have hnone : ([] : List Token).map lexeme = List.replicate 0 brackets := rfl
  exact readBrackets_append hnone h

theorem withBrackets_of_next_ne (e : Expr) {tokens : List Token} (h : next tokens ≠ some brackets) :
    e.withBrackets tokens = (e, tokens) := by
  rw [withBrackets, readBrackets_of_next_ne h]
  rfl

theorem arrays_arrayOf (e : Expr) (depth : Nat) :
    (arrayOf e).arrays depth = e.arrays (depth + 1) := by
  induction depth with
  | zero => rfl
  | succ depth ih =>
    rw [arrays, ih]
    rfl

theorem withBrackets_cons (e : Expr) (p : Nat) (rest : List Token) :
    e.withBrackets (⟨brackets, p⟩ :: rest) = (arrayOf e).withBrackets rest := by
  rw [withBrackets, withBrackets, readBrackets, arrays_arrayOf]

/-- A name is looked at for a null together with the bracket pairs after it. -/
theorem ofName_eq (n : String) (depth : Nat) :
    ofName n depth =
      if Text.lower (bracketed n depth) = "null" then null else named (bracketed n depth) := by
  cases depth with
  | zero =>
    split
    · exact ofName_null ‹_›
    · exact ofName_named fun _ => ‹_›
  | succ depth =>
    rw [if_neg (lower_bracketed_ne n depth)]
    exact ofName_named fun h => absurd h depth.succ_ne_zero

theorem outcome_readGeneric_of_next_ne (n : String) {tokens : List Token}
    (h : next tokens ≠ some openGeneric) :
    (readGeneric n tokens).outcome = .error (.expectedKind "<", tokens) := by
  rw [readGeneric, after?_eq_none h]
  rfl

theorem outcome_readUnion (tokens : List Token) :
    (readUnion tokens).outcome = (readAlternatives tokens).outcome.map fun (es, rest) =>
      (ofAlternatives es, rest) := by
  rw [readUnion]
  cases readAlternatives tokens <;> rfl

end Expr

theorem Reading.length_lt {α : Type} {a : α} {tokens rest : List Token} {r : Reading α tokens}
    (h : r.outcome = .ok (a, rest)) : rest.length < tokens.length := by
  cases r with
  | stopped => cases h
  | value a rest shorter =>
    obtain ⟨-, rfl⟩ := Prod.mk.inj (Except.ok.inj h)
    exact shorter

namespace Cursor

variable {α β : Type} {c : Cursor} {tokens rest : List Token}

theorem rest_suffix (c : Cursor) : c.rest <:+ c.tokens := List.drop_suffix ..

theorem rest_goTo (h : rest <:+ c.tokens) : (c.goTo rest).rest = rest := by
  obtain ⟨used, hused⟩ := h
  rw [Cursor.rest, goTo, ← hused]
  simp

theorem goTo_rest (h : c.index ≤ c.tokens.length) : c.goTo c.rest = c := by
  obtain ⟨text, tokens, index⟩ := c
  simp only [goTo, Cursor.rest, List.length_drop, mk.injEq, true_and]
  exact Nat.sub_sub_self h

theorem peek_eq (c : Cursor) : c.peek = nextKind c.rest := by
  rw [peek]
  cases c.rest <;> rfl

def answer (c : Cursor) : Outcome α → Except Failure α × Cursor
  | .ok (a, rest) => (.ok a, c.goTo rest)
  | .error (reason, rest) => (.error ((c.goTo rest).failure reason), c.goTo rest)

theorem ofReading_eq (r : Reading Expr c.rest) :
    c.ofReading r = c.answer (r.outcome.map fun (e, rest) => (.expr e, rest)) := by
  cases r <;> rfl

/-- A routine that, among any tokens, comes to the outcome if it is run before the given ones. -/
structure Routine.Reads (m : Routine α) (tokens : List Token) (o : Outcome α) : Prop where
  run : ∀ c : Cursor, tokens <:+ c.tokens → m (c.goTo tokens) = some (c.answer o)
  suffix : o.rest <:+ tokens

namespace Routine

theorem bind_congr {m m' : Routine α} {c : Cursor} (h : m c = m' c) (k : α → Routine β) :
    (m >>= k) c = (m' >>= k) c := by
  change (m c).bind _ = (m' c).bind _
  rw [h]

theorem bind_ok {m : Routine α} {a : α} {c c' : Cursor} (h : m c = some (.ok a, c'))
    (k : α → Routine β) : (m >>= k) c = k a c' := by
  change (m c).bind _ = _
  rw [h]
  rfl

theorem bind_error {m : Routine α} {failure : Failure} {c c' : Cursor}
    (h : m c = some (.error failure, c')) (k : α → Routine β) :
    (m >>= k) c = some (.error failure, c') := by
  change (m c).bind _ = _
  rw [h]
  rfl

namespace Reads
variable {m : Routine α} {o : Outcome α} {k : α → Routine β}

theorem andThen {a : α} {o : Outcome β} (h : Reads m tokens (.ok (a, rest)))
    (hk : Reads (k a) rest o) : Reads (m >>= k) tokens o := by
  refine ⟨fun c hc => ?_, hk.suffix.trans h.suffix⟩
  rw [bind_ok (h.run c hc) k]
  exact hk.run c (h.suffix.trans hc)

theorem failed {reason : Reason} (h : Reads m tokens (.error (reason, rest))) :
    Reads (m >>= k) tokens (.error (reason, rest)) :=
  ⟨fun c hc => bind_error (h.run c hc) k, h.suffix⟩

theorem map_bind {γ : Type} {g : α → γ} {m : Routine γ} {k : γ → Routine β}
    {f : α × List Token → Outcome β} (h : Reads m tokens (o.map fun (a, rest) => (g a, rest)))
    (hk : ∀ a rest, o = .ok (a, rest) → Reads (k (g a)) rest (f (a, rest))) :
    Reads (m >>= k) tokens (o.bind f) := by
  cases o with
  | error stop => exact h.failed
  | ok read => exact h.andThen (hk read.1 read.2 rfl)

theorem bind_map {g : α × List Token → β × List Token} (h : Reads m tokens o)
    (hk : ∀ a rest, Reads (k a) rest (.ok (g (a, rest)))) :
    Reads (m >>= k) tokens (o.map g) := by
  cases o with
  | error stop => exact h.failed
  | ok read => exact h.andThen (hk read.1 read.2)

theorem pure (a : α) (tokens : List Token) : Reads (Pure.pure a) tokens (.ok (a, tokens)) :=
  ⟨fun _ _ => rfl, List.suffix_rfl⟩

theorem fail (reason : Reason) (tokens : List Token) :
    Reads (Routine.fail (α := α) reason) tokens (.error (reason, tokens)) :=
  ⟨fun _ _ => rfl, List.suffix_rfl⟩

theorem peek (tokens : List Token) : Reads Routine.peek tokens (.ok (nextKind tokens, tokens)) := by
  refine ⟨fun c hc => ?_, List.suffix_rfl⟩
  rw [Routine.peek, peek_eq, rest_goTo hc]
  rfl

theorem take (token : Token) (rest : List Token) :
    Reads Routine.take (token :: rest) (.ok (token, rest)) := by
  refine ⟨fun c hc => ?_, List.suffix_cons ..⟩
  have hindex : (c.goTo (token :: rest)).index + 1 = (c.goTo rest).index := by
    have hlength := hc.length_le
    simp only [goTo, List.length_cons] at hlength ⊢
    omega
  simp only [Routine.take, rest_goTo hc, hindex]
  rfl

/-- Looking at the next token tells whether the tokens begin with a mark. -/
theorem ifNext (mark : Lexeme) (hm : ∀ n, mark ≠ name n) {yes no : Routine β} {o : Outcome β}
    (hyes : next tokens = some mark → Reads yes tokens o)
    (hno : next tokens ≠ some mark → Reads no tokens o) :
    Reads (Routine.peek >>= fun kind => if kind = mark.kind then yes else no) tokens o := by
  refine (peek tokens).andThen ?_
  by_cases hnext : next tokens = some mark
  · rw [if_pos ((nextKind_eq_iff hm tokens).mpr hnext)]
    exact hyes hnext
  · rw [if_neg (mt (nextKind_eq_iff hm tokens).mp hnext)]
    exact hno hnext

theorem require (mark : Lexeme) (hm : ∀ n, mark ≠ name n) (p : Nat) (rest : List Token) :
    Reads (Routine.require mark.kind) (⟨mark, p⟩ :: rest) (.ok (⟨mark, p⟩, rest)) :=
  ifNext mark hm (fun _ => take _ rest) fun h => absurd rfl h

theorem require_of_next_ne (mark : Lexeme) (hm : ∀ n, mark ≠ name n) (h : next tokens ≠ some mark) :
    Reads (Routine.require mark.kind) tokens (.error (.expectedKind mark.kind, tokens)) :=
  ifNext mark hm (fun hnext => absurd hnext h) fun _ => fail _ tokens

/-- Going on after a mark that has to come next. -/
theorem require_bind (mark : Lexeme) (hm : ∀ n, mark ≠ name n) {k : Token → Routine β}
    {goOn : List Token → Outcome β} (tokens : List Token)
    (hk : ∀ p rest, Reads (k ⟨mark, p⟩) rest (goOn rest)) :
    Reads (Routine.require mark.kind >>= k) tokens
      (expect mark (.expectedKind mark.kind) tokens goOn) := by
  by_cases hnext : next tokens = some mark
  · obtain ⟨p, rest, rfl⟩ := exists_cons_of_next hnext
    rw [expect_cons]
    exact (require mark hm p rest).andThen (hk p rest)
  · rw [expect_eq_error hnext]
    exact (require_of_next_ne mark hm hnext).failed

end Reads

/-! ## Bracket pairs -/

/-- The tokens of one kind that come next are taken one by one. -/
theorem reads_whileNext (mark : Lexeme) (hm : ∀ n, mark ≠ name n) {change : α → Token → α}
    {f : α → List Token → α × List Token}
    (htake : ∀ a p rest, f a (⟨mark, p⟩ :: rest) = f (change a ⟨mark, p⟩) rest)
    (hstop : ∀ a rest, next rest ≠ some mark → f a rest = (a, rest))
    {m : Routine α} {a : α} {tokens rest : List Token} (h : Reads m tokens (.ok (a, rest))) :
    Reads (m.whileNext mark.kind change) tokens (.ok (f a rest)) := by
  rw [whileNext]
  refine h.andThen (Reads.ifNext mark hm (fun hnext => ?_) fun hnext => ?_)
  · obtain ⟨p, after, rfl⟩ := exists_cons_of_next hnext
    have hchange : Reads (do return change a (← take)) (⟨mark, p⟩ :: after)
        (.ok (change a ⟨mark, p⟩, after)) := (Reads.take _ after).andThen (.pure _ after)
    rw [htake]
    exact reads_whileNext mark hm htake hstop hchange
  · rw [hstop a rest hnext]
    exact .pure a rest
termination_by rest.length

theorem reads_wrapArrays (e : Expr) (tokens : List Token) :
    Reads (wrapArrays e) tokens (.ok (e.withBrackets tokens)) :=
  reads_whileNext .brackets nofun withBrackets_cons
    (fun e _ h => withBrackets_of_next_ne e h) (.pure e tokens)

theorem reads_brackets (n : String) (tokens : List Token) :
    Reads (brackets n) tokens
      (.ok (bracketed n (readBrackets tokens).1, (readBrackets tokens).2)) := by
  refine reads_whileNext .brackets nofun (fun n p rest => ?_) (fun n rest h => ?_)
    (f := fun n tokens => (bracketed n (readBrackets tokens).1, (readBrackets tokens).2))
    (.pure n tokens)
  · rw [readBrackets, ← bracketed_brackets]
    rfl
  · rw [readBrackets_of_next_ne h]
    rfl

/-! ## Unions, terms and generics -/

theorem reads_closeGeneric (n : String) (key value : Expr) (tokens : List Token) :
    Reads (closeGeneric n key value) tokens (outcomeOfParameters n key value tokens) := by
  refine Reads.ifNext .comma (by simp) (fun h => ?_) fun h => ?_
  · rw [Grammar.outcomeOfParameters_comma n key value h]
    exact .fail _ tokens
  · rw [outcomeOfParameters, after?_eq_none h, if_neg (by simp)]
    refine Reads.require_bind .closeGeneric (by simp) tokens fun p rest => ?_
    exact .pure (Expr.generic n key value) rest

-- The recursion is that of the reader: a term is read at the tokens of the union that begins with
-- it, and everything else at fewer tokens.
mutual

/-- The alternatives read before stand in front of those ahead. -/
theorem reads_union (es : List Expr) (tokens : List Token) :
    Reads (union es) tokens ((readAlternatives tokens).outcome.map fun (others, rest) =>
      (ofAlternatives (es ++ others), rest)) := by
  have hterm := reads_term tokens
  rw [union, Call.read, outcome_readAlternatives]
  cases hread : (readTerm tokens).outcome with
  | error stop =>
    rw [hread] at hterm
    exact hterm.failed
  | ok read =>
    obtain ⟨term, rest⟩ := read
    rw [hread] at hterm
    have hlt := Reading.length_lt hread
    refine hterm.andThen (Reads.ifNext .bar nofun (fun h => ?_) fun h => ?_)
    · obtain ⟨p, after, rfl⟩ := exists_cons_of_next h
      have hafter : after.length < tokens.length := (Nat.lt_succ_self _).trans hlt
      have hothers := reads_union (es ++ term.alternatives) after
      refine (Reads.take _ after).andThen ?_
      simp only [Except.bind, after?_cons]
      cases hread : (readAlternatives after).outcome with
      | error stop =>
        rw [hread] at hothers
        exact hothers
      | ok others =>
        rw [hread] at hothers
        simpa only [Except.map, List.append_assoc, union] using hothers
    · simp only [Except.bind, after?_eq_none h]
      exact .pure _ rest
termination_by (tokens.length, 1)

theorem reads_term (tokens : List Token) :
    Reads term tokens (readTerm tokens).outcome := by
  match tokens with
  | [] =>
    rw [term, Call.read, outcome_readTerm_nil]
    refine (Reads.peek []).andThen ?_
    simp only [nextKind, String.reduceEq, ↓reduceIte]
    exact .fail _ []
  | ⟨question, p⟩ :: rest =>
    rw [term, Call.read, outcome_readTerm_question]
    refine (Reads.peek _).andThen ?_
    simp only [nextKind, kind, value, ↓reduceIte]
    exact (Reads.take _ rest).andThen ((reads_term rest).bind_map fun _ rest => .pure _ rest)
  | ⟨openGroup, p⟩ :: rest =>
    rw [term, Call.read, outcome_readTerm_openGroup]
    refine (Reads.peek _).andThen ?_
    simp only [nextKind, kind, value, String.reduceEq, ↓reduceIte]
    refine (Reads.take _ rest).andThen ((reads_union [] rest).map_bind fun es after _ => ?_)
    exact Reads.require_bind .closeGroup nofun after
      fun _ after => reads_wrapArrays (ofAlternatives es) after
  | ⟨.name n, p⟩ :: rest =>
    rw [term, Call.read]
    refine (Reads.peek _).andThen ?_
    simp only [nextKind, kind, value, String.reduceEq, ↓reduceIte]
    refine (Reads.take _ rest).andThen
      (Reads.ifNext .openGeneric nofun (fun h => ?_) fun h => ?_)
    · obtain ⟨q, inside, rfl⟩ := exists_cons_of_next h
      rw [outcome_readTerm_generic]
      exact (reads_generic n _).bind_map fun container after => reads_wrapArrays container after
    · rw [outcome_readTerm_name n p h, ofName_eq]
      exact (reads_brackets n rest).andThen (.pure _ _)
  | ⟨.brackets, p⟩ :: rest =>
    rw [term, Call.read, outcome_readTerm_brackets]
    refine (Reads.peek _).andThen ?_
    simp only [nextKind, kind, String.reduceEq, ↓reduceIte]
    have hbrackets := reads_brackets "" (⟨.brackets, p⟩ :: rest)
    rw [readBrackets] at hbrackets
    exact hbrackets.andThen (.pure _ _)
  | ⟨bar, p⟩ :: rest | ⟨closeGroup, p⟩ :: rest | ⟨openGeneric, p⟩ :: rest
  | ⟨.closeGeneric, p⟩ :: rest | ⟨comma, p⟩ :: rest =>
    rw [term, Call.read, outcome_readTerm_of_not_startsTerm rfl]
    refine (Reads.peek _).andThen ?_
    simp only [nextKind, kind, value, String.reduceEq, ↓reduceIte]
    exact .fail _ _
termination_by (tokens.length, 0)

theorem reads_generic (n : String) (tokens : List Token) :
    Reads (generic n) tokens (readGeneric n tokens).outcome := by
  rw [generic, Call.read]
  by_cases h : next tokens = some openGeneric
  · obtain ⟨p, inside, htokens⟩ := exists_cons_of_next h
    have hinside : inside.length < tokens.length := by
      rw [htokens]
      exact Nat.lt_succ_self inside.length
    rw [htokens, outcome_readGeneric]
    refine (Reads.require openGeneric nofun p inside).andThen
      ((reads_union [] inside).map_bind fun first rest hfirst => ?_)
    have hrest : rest.length < tokens.length := (Reading.length_lt hfirst).trans hinside
    refine Reads.ifNext .comma nofun (fun h => ?_) fun h => ?_
    · obtain ⟨q, after, rfl⟩ := exists_cons_of_next h
      have hafter : after.length < tokens.length := (Nat.lt_succ_self after.length).trans hrest
      simp only [after?_cons]
      exact (Reads.take _ after).andThen
        ((reads_union [] after).map_bind fun second rest _ => reads_closeGeneric n _ _ rest)
    · simp only [after?_eq_none h]
      exact reads_closeGeneric n _ _ rest
  · rw [outcome_readGeneric_of_next_ne n h]
    exact (Reads.require_of_next_ne openGeneric nofun h).failed
termination_by (tokens.length, 0)

end

theorem reads_readUnion (tokens : List Token) :
    Reads (union []) tokens (readUnion tokens).outcome := by
  rw [outcome_readUnion]
  exact reads_union [] tokens

/-! ## Steps -/

theorem Reads.run_rest {m : Routine α} {o : Outcome α} (h : Reads m c.rest o)
    (hc : c.index ≤ c.tokens.length) : m c = some (c.answer o) := by
  have hrun := h.run c c.rest_suffix
  rwa [goTo_rest hc] at hrun

theorem Reads.run_ofReading {m : Routine Expr} {r : Reading Expr c.rest}
    (h : Reads m c.rest r.outcome) (hc : c.index ≤ c.tokens.length) :
    (do return Answer.expr (← m) : Routine Answer) c = some (c.ofReading r) := by
  rw [ofReading_eq]
  exact (h.bind_map fun e rest => .pure (Answer.expr e) rest).run_rest hc

theorem run_take (c : Cursor) :
    (do return Answer.token (← take) : Routine Answer) c = some c.advance := by
  rw [advance]
  cases h : c.rest with
  | nil => exact bind_error (by rw [take, h]) _
  | cons token rest => exact bind_ok (by rw [take, h]) _

theorem run_require (c : Cursor) (kind : String) :
    (do return Answer.token (← require kind) : Routine Answer) c = some (c.step (.expect kind)) := by
  have hpeek : peek c = some (.ok c.peek, c) := rfl
  rw [step]
  by_cases h : c.peek = kind
  · have hrequire : require kind c = take c := by
      rw [require, bind_ok hpeek, if_pos h]
    rw [if_pos h, ← run_take, bind_congr hrequire]
  · have hrequire : require kind c = some (.error (c.failure (.expectedKind kind)), c) := by
      rw [require, bind_ok hpeek, if_neg h]
      rfl
    rw [if_neg h]
    exact bind_error hrequire _

end Routine

/-- Every routine ends, where and as its step does. -/
theorem routine_eq (hc : c.index ≤ c.tokens.length) (s : Step) :
    s.routine c = some (c.step s) := by
  cases s with
  | peek => rfl
  | advance => exact Routine.run_take c
  | expect kind => exact Routine.run_require c kind
  | expectEnd =>
    rw [step, Step.routine]
    cases h : c.rest with
    | nil => exact Routine.bind_ok (by rw [Routine.requireEnd, h]) _
    | cons token rest => exact Routine.bind_error (by rw [Routine.requireEnd, h]; rfl) _
  | fail message => rfl
  | readUnion => exact (Routine.reads_readUnion c.rest).run_ofReading hc
  | readTerm => exact (Routine.reads_term c.rest).run_ofReading hc
  | readGeneric n => exact (Routine.reads_generic n c.rest).run_ofReading hc
  | wrapArrays e =>
    exact ((Routine.reads_wrapArrays e c.rest).andThen (k := fun e => pure (Answer.expr e))
      (.pure _ _)).run_rest hc

end Cursor

end TypeAnnotation
