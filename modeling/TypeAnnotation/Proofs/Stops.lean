import Mathlib.Data.List.Basic
import TypeAnnotation.Proofs.Grammar
import TypeAnnotation.SyntaxError

/-! # Where reading stops

A row of lexemes either begins with a term that what follows cannot lengthen, or reading it stops
at some place for a reason. The stops are listed as a relation of their own, between the lexemes
that were taken, the one that comes next, if any, and the reason. That nothing else can happen is
proved here from the grammar alone.
-/
namespace TypeAnnotation.Grammar
open Lexeme

def Ends (w : List Lexeme) (next : Option Lexeme) : Prop :=
  next ≠ some brackets ∧ ∀ n, w.getLast? = some (name n) → next ≠ some openGeneric

def Closed (w : List Lexeme) (next : Option Lexeme) : Prop := Ends w next ∧ next ≠ some bar

def startsTerm : Lexeme → Bool
  | name _ | brackets | question | openGroup => true
  | _ => false

mutual

/-- Reading a term stops after these lexemes. -/
inductive TermStops : List Lexeme → Option Lexeme → Reason → Prop
  | start {next : Option Lexeme} (h : ∀ l ∈ next, startsTerm l = false) :
    TermStops [] next .expectedTypeName
  | nullable {w : List Lexeme} {next : Option Lexeme} {reason : Reason}
    (h : TermStops w next reason) : TermStops (question :: w) next reason
  | inGroup {w : List Lexeme} {next : Option Lexeme} {reason : Reason}
    (h : UnionStops w next reason) : TermStops (openGroup :: w) next reason
  | groupOpen {w : List Lexeme} {es : List Expr} {next : Option Lexeme} (h : Alternatives w es)
    (hc : Closed w next) (hn : next ≠ some closeGroup) :
    TermStops (openGroup :: w) next (.expectedKind ")")
  | inGeneric (n : String) {w : List Lexeme} {next : Option Lexeme} {reason : Reason}
    (h : ParametersStop w next reason) :
    TermStops (name n :: openGeneric :: w) next reason

inductive ParametersStop : List Lexeme → Option Lexeme → Reason → Prop
  | first {w : List Lexeme} {next : Option Lexeme} {reason : Reason}
    (h : UnionStops w next reason) : ParametersStop w next reason
  | second {v w : List Lexeme} {ks : List Expr} {next : Option Lexeme} {reason : Reason}
    (hk : Alternatives v ks) (h : UnionStops w next reason) :
    ParametersStop (v ++ comma :: w) next reason
  | stillOpen {w : List Lexeme} {key value : Expr} {next : Option Lexeme}
    (h : Parameters w key value) (hc : Closed w next) (hm : next ≠ some comma)
    (hn : next ≠ some closeGeneric) : ParametersStop w next (.expectedKind ">")
  | third {v w : List Lexeme} {ks es : List Expr} (hk : Alternatives v ks)
    (h : Alternatives w es) :
    ParametersStop (v ++ comma :: w) (some comma) .tooManyParameters

inductive UnionStops : List Lexeme → Option Lexeme → Reason → Prop
  | one {w : List Lexeme} {next : Option Lexeme} {reason : Reason}
    (h : TermStops w next reason) : UnionStops w next reason
  | more {v w : List Lexeme} {e : Expr} {next : Option Lexeme} {reason : Reason}
    (h : Term v e) (hs : UnionStops w next reason) :
    UnionStops (v ++ bar :: w) next reason

end

section Ends
variable {v w : List Lexeme} {next : Option Lexeme}

theorem Ends.of_getLast?_eq (h : Ends w next) (hl : v.getLast? = w.getLast?) : Ends v next :=
  ⟨h.1, fun n hn => h.2 n (hl ▸ hn)⟩

/-- A mark ends whatever stands before it. -/
theorem ends_some {l : Lexeme} (hb : l ≠ brackets) (hg : l ≠ openGeneric) :
    Ends w (some l) := by
  refine ⟨?_, fun n _ => ?_⟩
  · simpa using hb
  · simpa using hg

theorem Ends.cons {l : Lexeme} (h : Ends w next) (hw : w ≠ []) : Ends (l :: w) next :=
  h.of_getLast?_eq (List.getLast?_cons_of_ne_nil hw)

theorem Ends.of_cons {l : Lexeme} (h : Ends (l :: w) next) (hw : w ≠ []) : Ends w next :=
  h.of_getLast?_eq (List.getLast?_cons_of_ne_nil hw).symm

theorem getLast?_append_cons {l : Lexeme} (hw : w ≠ []) :
    (v ++ l :: w).getLast? = w.getLast? := by
  rw [List.getLast?_append_of_ne_nil v (by simp), List.getLast?_cons_of_ne_nil hw]

theorem Closed.append_cons {l : Lexeme} (h : Closed w next) (hw : w ≠ []) :
    Closed (v ++ l :: w) next :=
  ⟨h.1.of_getLast?_eq (getLast?_append_cons hw), h.2⟩

theorem Closed.of_append_cons {l : Lexeme} (h : Closed (v ++ l :: w) next) (hw : w ≠ []) :
    Closed w next :=
  ⟨h.1.of_getLast?_eq (getLast?_append_cons hw).symm, h.2⟩

end Ends

/-- The row begins with a term that ends there, or reading one stops. -/
def TermDecided (ts : List Lexeme) : Prop :=
  ∃ w rest, ts = w ++ rest ∧ ((∃ e, Term w e ∧ Ends w rest.head?) ∨ ∃ r, TermStops w rest.head? r)

def UnionDecided (ts : List Lexeme) : Prop :=
  ∃ w rest, ts = w ++ rest ∧
    ((∃ es, Alternatives w es ∧ Closed w rest.head?) ∨ ∃ r, UnionStops w rest.head? r)

/-- A row begins with as many bracket pairs as it can. -/
theorem exists_brackets (ts : List Lexeme) :
    ∃ depth rest, ts = List.replicate depth brackets ++ rest ∧ rest.head? ≠ some brackets := by
  induction ts with
  | nil => exact ⟨0, [], rfl, by simp⟩
  | cons l ts ih =>
    by_cases hl : l = brackets
    · obtain ⟨depth, rest, rfl, hr⟩ := ih
      exact ⟨depth + 1, rest, by rw [hl, List.replicate_succ, List.cons_append], hr⟩
    · exact ⟨0, l :: ts, rfl, by simpa using hl⟩

/-- With bracket pairs after it or not, what is no name leaves none at the end. -/
theorem getLast?_brackets_ne_name {v : List Lexeme} {l : Lexeme} (hl : ∀ n, l ≠ name n)
    (depth : Nat) (n : String) :
    (v ++ l :: List.replicate depth brackets).getLast? ≠ some (name n) := by
  intro h
  cases depth with
  | zero => simp [hl] at h
  | succ depth =>
    rw [getLast?_append_cons (by simp), List.getLast?_replicate] at h
    simp at h

/-- Only a last name can be lengthened by an angle bracket. -/
theorem ends_brackets {v : List Lexeme} {l : Lexeme} {next : Option Lexeme}
    (hl : ∀ n, l ≠ name n) (hn : next ≠ some brackets) (depth : Nat) :
    Ends (v ++ l :: List.replicate depth brackets) next :=
  ⟨hn, fun n h => absurd h (getLast?_brackets_ne_name hl depth n)⟩

theorem ends_name {n : String} {next : Option Lexeme} (hb : next ≠ some brackets) {depth : Nat}
    (hg : depth = 0 → next ≠ some openGeneric) :
    Ends (name n :: List.replicate depth brackets) next := by
  cases depth with
  | zero => exact ⟨hb, fun _ _ => hg rfl⟩
  | succ depth => exact ends_brackets (v := [name n]) (by simp) hb depth

/-- What is decided on shorter rows for terms is decided for unions: after each bar the row is
shorter. -/
theorem unionDecided_of_term {n : Nat} (h : ∀ ts : List Lexeme, ts.length < n → TermDecided ts) :
    ∀ ts : List Lexeme, ts.length < n → UnionDecided ts := by
  induction n with
  | zero => intro ts hts; omega
  | succ n ih =>
    intro ts hts
    obtain ⟨w, rest, rfl, ⟨e, he, hends⟩ | ⟨r, hr⟩⟩ := h ts hts
    · by_cases hb : rest.head? = some bar
      · obtain ⟨after, rfl⟩ := List.head?_eq_some_iff.mp hb
        have hlen : after.length < n := by
          have hpos := List.length_pos_iff.mpr he.ne_nil
          simp only [List.length_append, List.length_cons] at hts
          omega
        obtain ⟨v, rest, rfl, ⟨es, hes, hc⟩ | ⟨r, hr⟩⟩ :=
          ih (fun ts hts => h ts (by omega)) after hlen
        · exact ⟨w ++ bar :: v, rest, by simp, .inl ⟨_, .more he hes, hc.append_cons hes.ne_nil⟩⟩
        · exact ⟨w ++ bar :: v, rest, by simp, .inr ⟨r, .more he hr⟩⟩
      · exact ⟨w, rest, rfl, .inl ⟨_, .one he, hends, hb⟩⟩
    · exact ⟨w, rest, rfl, .inr ⟨r, .one hr⟩⟩

def ParametersDecided (ts : List Lexeme) : Prop :=
  (∃ w rest key value, ts = w ++ closeGeneric :: rest ∧ Parameters w key value) ∨
    ∃ w rest r, ts = w ++ rest ∧ ParametersStop w rest.head? r

theorem parametersDecided_of_parameters {w rest : List Lexeme} {key value : Expr}
    (h : Parameters w key value) (hc : Closed w rest.head?) (hm : rest.head? ≠ some comma) :
    ParametersDecided (w ++ rest) := by
  by_cases hg : rest.head? = some closeGeneric
  · obtain ⟨after, rfl⟩ := List.head?_eq_some_iff.mp hg
    exact .inl ⟨w, after, key, value, rfl, h⟩
  · exact .inr ⟨w, rest, _, rfl, .stillOpen h hc hm hg⟩

theorem parametersDecided {n : Nat} (h : ∀ ts : List Lexeme, ts.length < n → UnionDecided ts)
    (ts : List Lexeme) (hts : ts.length < n) : ParametersDecided ts := by
  obtain ⟨v, rest, rfl, ⟨ks, hks, hv⟩ | ⟨r, hr⟩⟩ := h ts hts
  · by_cases hm : rest.head? = some comma
    · obtain ⟨after, rfl⟩ := List.head?_eq_some_iff.mp hm
      have hlen : after.length < n := by
        simp only [List.length_append, List.length_cons] at hts
        omega
      obtain ⟨w, rest, rfl, ⟨es, hes, hw⟩ | ⟨r, hr⟩⟩ := h after hlen
      · by_cases hm' : rest.head? = some comma
        · refine .inr ⟨v ++ comma :: w, rest, .tooManyParameters, by simp, ?_⟩
          rw [hm']
          exact .third hks hes
        · have hdone := parametersDecided_of_parameters (.keyValue hks hes)
            (hw.append_cons hes.ne_nil) hm'
          simpa using hdone
      · exact .inr ⟨v ++ comma :: w, rest, r, by simp, .second hks hr⟩
    · exact parametersDecided_of_parameters (.value hks) hv hm
  · exact .inr ⟨v, rest, r, rfl, .first hr⟩

/-- Every row begins with a term, or reading one stops. -/
theorem termDecided (ts : List Lexeme) : TermDecided ts := by
  induction hn : ts.length using Nat.strongRecOn generalizing ts with
  | ind n ih =>
    subst hn
    have hunion : ∀ us : List Lexeme, us.length < ts.length → UnionDecided us :=
      unionDecided_of_term fun us hus => ih us.length hus us rfl
    cases ts with
    | nil => exact ⟨[], [], rfl, .inr ⟨_, .start (by simp)⟩⟩
    | cons l ts =>
      cases l with
      | question =>
        obtain ⟨w, rest, rfl, ⟨e, he, hends⟩ | ⟨r, hr⟩⟩ := ih ts.length (by simp) ts rfl
        · exact ⟨question :: w, rest, rfl, .inl ⟨_, .nullable he, hends.cons he.ne_nil⟩⟩
        · exact ⟨question :: w, rest, rfl, .inr ⟨r, .nullable hr⟩⟩
      | openGroup =>
        obtain ⟨w, rest, rfl, ⟨es, hes, hc⟩ | ⟨r, hr⟩⟩ := hunion ts (by simp)
        · by_cases hg : rest.head? = some closeGroup
          · obtain ⟨after, rfl⟩ := List.head?_eq_some_iff.mp hg
            obtain ⟨depth, rest, rfl, hb⟩ := exists_brackets after
            exact ⟨_, rest, by simp, .inl ⟨_, .group hes depth,
              ends_brackets (v := openGroup :: w) (by simp) hb depth⟩⟩
          · exact ⟨openGroup :: w, rest, rfl, .inr ⟨_, .groupOpen hes hc hg⟩⟩
        · exact ⟨openGroup :: w, rest, rfl, .inr ⟨r, .inGroup hr⟩⟩
      | name n =>
        by_cases hg : ts.head? = some openGeneric
        · obtain ⟨inside, rfl⟩ := List.head?_eq_some_iff.mp hg
          obtain ⟨w, after, key, value, rfl, h⟩ | ⟨w, rest, r, rfl, hr⟩ :=
            parametersDecided hunion inside (by rw [List.length_cons, List.length_cons]; omega)
          · obtain ⟨depth, rest, rfl, hb⟩ := exists_brackets after
            exact ⟨_, rest, by simp, .inl ⟨_, .generic n h depth,
              ends_brackets (v := name n :: openGeneric :: w) (by simp) hb depth⟩⟩
          · exact ⟨name n :: openGeneric :: w, rest, rfl, .inr ⟨r, .inGeneric n hr⟩⟩
        · obtain ⟨depth, rest, rfl, hb⟩ := exists_brackets ts
          have hends : Ends (name n :: List.replicate depth brackets) rest.head? :=
            ends_name hb fun h => by subst h; simpa using hg
          refine ⟨name n :: List.replicate depth brackets, rest, rfl, .inl ?_⟩
          by_cases hnull : depth = 0 ∧ Text.lower n = "null"
          · obtain ⟨rfl, hnull⟩ := hnull
            exact ⟨_, .null n hnull, hends⟩
          · exact ⟨_, .named n depth fun h hl => hnull ⟨h, hl⟩, hends⟩
      | brackets =>
        obtain ⟨depth, rest, rfl, hb⟩ := exists_brackets ts
        exact ⟨List.replicate (depth + 1) brackets, rest, rfl, .inl ⟨_, .bare depth,
          ends_brackets (v := []) (l := brackets) (by simp) hb depth⟩⟩
      | bar | closeGroup | openGeneric | closeGeneric | comma =>
        exact ⟨[], _, rfl, .inr ⟨_, .start (by simp [startsTerm])⟩⟩

/-- Every row begins with a union, or reading one stops. -/
theorem unionDecided (ts : List Lexeme) : UnionDecided ts :=
  unionDecided_of_term (fun us _ => termDecided us) ts (Nat.lt_succ_self ts.length)

end TypeAnnotation.Grammar
