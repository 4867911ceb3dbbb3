import Mathlib.Data.List.Chain
import TypeAnnotation.Proofs.Acceptance
import TypeAnnotation.Proofs.Tags
import TypeAnnotation.Proofs.Spelling

/-! # Tags in error messages

A message quotes the text that it is about. Quoting does not escape brackets, so a tag in the text
is one in the message too. There are no others: where no bracket of the text begins a tag, none of
the message does.
-/
namespace TypeAnnotation

/-- No bracket has a character behind it that a tag may begin with. -/
def Markup.WithoutTags (cs : List Char) : Prop :=
  cs.IsChain fun c d => c = '[' → startsTag d = false

namespace Markup

theorem WithoutTags.tagsFrom_eq_nil {cs : List Char} (h : WithoutTags cs) : tagsFrom 0 cs = [] := by
  rw [List.eq_nil_iff_forall_not_mem]
  intro body hbody
  obtain ⟨first, rest, rfl, hfirst⟩ := startsTag_of_mem_tagsFrom hbody
  obtain ⟨before, after, rfl⟩ := infix_of_mem_tagsFrom hbody
  rw [WithoutTags, List.isChain_iff_forall_rel_of_append_cons_cons] at h
  have htext : before ++ '[' :: first :: rest ++ after = before ++ '[' :: first :: (rest ++ after) := by
    simp
  have hplain : startsTag first = false := h htext rfl
  rw [hfirst] at hplain
  cases hplain

theorem WithoutTags.showable {markup : String} (h : WithoutTags markup.toList) :
    Showable markup := by
  rw [showable_iff, h.tagsFrom_eq_nil]
  exact ⟨[], rfl, fun style hstyle => absurd hstyle List.not_mem_nil⟩

/-- Texts are joined without a tag where the second begins with no character of one. -/
theorem WithoutTags.append {cs ds : List Char} (hc : WithoutTags cs) (hd : WithoutTags ds)
    (hhead : ∀ d ∈ ds.head?, startsTag d = false) : WithoutTags (cs ++ ds) := by
  refine List.IsChain.append hc hd ?_
  rintro c - d hd -
  exact hhead d hd

/-- What holds no bracket may stand before any text. -/
theorem WithoutTags.prepend {cs ds : List Char} (hd : WithoutTags ds) (hc : '[' ∉ cs) :
    WithoutTags (cs ++ ds) := by
  induction cs with
  | nil => exact hd
  | cons c cs ih =>
    rw [List.mem_cons, not_or] at hc
    refine List.isChain_cons.mpr ⟨?_, ih hc.2⟩
    rintro d - hopen
    exact absurd hopen.symm hc.1

theorem withoutTags_of_not_mem {cs : List Char} (h : '[' ∉ cs) : WithoutTags cs := by
  have hplain : WithoutTags (cs ++ []) := WithoutTags.prepend List.isChain_nil h
  rwa [List.append_nil] at hplain

/-- Putting an escape in the place of a character brings in no tag. -/
theorem WithoutTags.flatMap {f : Char → List Char}
    (hf : ∀ c, f c = [c] ∨ ∃ tail, f c = '\\' :: tail ∧ '[' ∉ tail) {cs : List Char}
    (h : WithoutTags cs) : WithoutTags (cs.flatMap f) := by
  induction cs with
  | nil => exact List.isChain_nil
  | cons c cs ih =>
    obtain ⟨hseam, hrest⟩ := List.isChain_cons.mp h
    rw [List.flatMap_cons]
    rcases hf c with hc | ⟨tail, hc, htail⟩
    · rw [hc, List.singleton_append]
      refine List.isChain_cons.mpr ⟨?_, ih hrest⟩
      intro x hx hopen
      -- What stands behind the bracket is what did before, or a backslash.
      cases cs with
      | nil => cases hx
      | cons d ds =>
        rw [List.flatMap_cons] at hx
        rcases hf d with hd | ⟨tail, hd, -⟩
        · rw [hd] at hx
          obtain rfl := Option.some.inj hx
          exact hseam d rfl hopen
        · rw [hd] at hx
          obtain rfl := Option.some.inj hx
          decide
    · have hescape : '[' ∉ f c := by
        rw [hc, List.mem_cons, not_or]
        exact ⟨by decide, htail⟩
      exact (ih hrest).prepend hescape

end Markup

open Markup

/-! ## Quoted text -/

namespace Text

/-- Every digit is the digit of some number. -/
theorem exists_digitChar_of_mem_toDigits {b n : Nat} (hb : 1 < b) {c : Char}
    (h : c ∈ Nat.toDigits b n) : ∃ k : Nat, c = k.digitChar := by
  induction n using Nat.strong_induction_on with
  | h n ih =>
    by_cases hn : n < b
    · rw [Nat.toDigits_of_lt_base hn] at h
      exact ⟨n, List.mem_singleton.mp h⟩
    · have hpos : 0 < n := by omega
      rw [Nat.toDigits_of_base_le hb (Nat.le_of_not_lt hn)] at h
      rcases List.mem_append.mp h with h | h
      · exact ih (n / b) (Nat.div_lt_self hpos hb) h
      · exact ⟨n % b, List.mem_singleton.mp h⟩

theorem exists_digitChar_of_mem_hexDigits {width n : Nat} {c : Char} (h : c ∈ hexDigits width n) :
    ∃ k : Nat, c = k.digitChar := by
  rcases List.mem_append.mp h with h | h
  · exact ⟨0, List.eq_of_mem_replicate h⟩
  · exact exists_digitChar_of_mem_toDigits (by decide) h

/-- An escape begins with a backslash and holds no bracket. -/
theorem escapeChar_cases {mark : Char} (hmark : mark ≠ '[') (c : Char) :
    escapeChar mark c = [c] ∨ ∃ tail, escapeChar mark c = '\\' :: tail ∧ '[' ∉ tail := by
  have hdigits : ∀ width n, '[' ∉ hexDigits width n := by
    intro width n hmem
    obtain ⟨k, hk⟩ := exists_digitChar_of_mem_hexDigits hmem
    exact Nat.digitChar_ne '[' rfl hk.symm
  unfold escapeChar
  split
  · rename_i hescaped
    refine .inr ⟨[c], rfl, ?_⟩
    rw [Bool.or_eq_true, beq_iff_eq, beq_iff_eq] at hescaped
    rintro hmem
    obtain rfl := List.mem_singleton.mp hmem
    rcases hescaped with h | h
    · exact hmark h.symm
    · exact absurd h (by decide)
  · repeat' split
    all_goals first
      | exact .inl rfl
      | exact .inr ⟨_, rfl, by simp [hdigits]⟩

theorem quotationMark_cases (cs : List Char) :
    quotationMark cs = '"' ∨ quotationMark cs = '\x27' := by
  unfold quotationMark
  split
  · exact .inl rfl
  · exact .inr rfl

/-- What is quoted may hold tags only where the text does. -/
theorem withoutTags_quote {s : String} (h : WithoutTags s.toList) :
    WithoutTags (quote s).toList := by
  have hmark : quotationMark s.toList ≠ '[' ∧ startsTag (quotationMark s.toList) = false := by
    rcases quotationMark_cases s.toList with hq | hq <;> rw [hq] <;> decide
  have hinside := h.flatMap (escapeChar_cases hmark.1)
  rw [quote, String.toList_ofList, quoteChars]
  refine WithoutTags.append (List.isChain_cons.mpr ⟨?_, hinside⟩) (List.isChain_singleton _) ?_
  · rintro d - hopen
    exact absurd hopen hmark.1
  · simpa using hmark.2

end Text

/-! ## What a message says -/

def Reason.Harmless : Reason → Prop
  | .expectedKind text | .unexpectedValue text | .stated text => WithoutTags text.toList
  | .unexpectedCharacter _ | .expectedTypeName | .tooManyParameters | .noTokens => True

theorem Reason.Harmless.message {r : Reason} (h : r.Harmless) : WithoutTags r.message.toList := by
  have hquoted : ∀ before s : String, '[' ∉ before.toList → WithoutTags s.toList →
      WithoutTags (before ++ Text.quote s).toList := by
    intro before s hbefore hs
    rw [String.toList_append]
    exact (Text.withoutTags_quote hs).prepend hbefore
  cases r with
  | unexpectedCharacter c =>
    exact hquoted _ _ (by decide) (by rw [String.toList_singleton]; exact List.isChain_singleton c)
  | expectedKind kind => exact hquoted _ _ (by decide) h
  | unexpectedValue value => exact hquoted _ _ (by decide) h
  | expectedTypeName => exact withoutTags_of_not_mem (by decide)
  | tooManyParameters => exact withoutTags_of_not_mem (by decide)
  | noTokens => exact withoutTags_of_not_mem (by decide)
  | stated text => exact h

theorem isDigit_of_mem_toString {n : Nat} {c : Char} (h : c ∈ (toString n).toList) :
    c.isDigit = true := by
  rw [Nat.toString_eq_repr, Nat.repr_eq_ofList_toDigits, String.toList_ofList] at h
  exact Nat.isDigit_of_mem_toDigits (by decide) (by decide) h

theorem SyntaxError.withoutTags_message {error : SyntaxError} (hr : error.reason.Harmless)
    (ht : WithoutTags error.text.toList) : WithoutTags error.message.toList := by
  rw [message]
  simp only [String.toList_append]
  have hquoted := (Text.withoutTags_quote ht).prepend (by decide : '[' ∉ " in ".toList)
  have hposition : '[' ∉ (toString error.position).toList :=
    fun hmem => absurd (isDigit_of_mem_toString hmem) (by decide)
  have hplace :=
    (hquoted.prepend hposition).prepend (by decide : '[' ∉ " at position ".toList)
  have hsaid := hr.message.append hplace fun d hd => by
    obtain rfl := Option.some.inj hd
    decide
  simpa [List.append_assoc] using hsaid

/-! ## The reasons of a text that is no annotation -/

namespace Grammar

mutual

theorem TermStops.harmless {w : List Lexeme} {next : Option Lexeme} {reason : Reason} :
    TermStops w next reason → reason.Harmless
  | .start _ => trivial
  | .nullable h => h.harmless
  | .inGroup h => h.harmless
  | .groupOpen _ _ _ => withoutTags_of_not_mem (by decide)
  | .inGeneric _ h => h.harmless

theorem ParametersStop.harmless {w : List Lexeme} {next : Option Lexeme} {reason : Reason} :
    ParametersStop w next reason → reason.Harmless
  | .first h => h.harmless
  | .second _ h => h.harmless
  | .stillOpen _ _ _ _ => withoutTags_of_not_mem (by decide)
  | .third _ _ => trivial

theorem UnionStops.harmless {w : List Lexeme} {next : Option Lexeme} {reason : Reason} :
    UnionStops w next reason → reason.Harmless
  | .one h => h.harmless
  | .more _ h => h.harmless

end

end Grammar

/-- No token holds a tag. -/
theorem Lexeme.withoutTags_value {cs : List Char} {w : List Lexeme} (h : Spells cs w) {l : Lexeme}
    (hl : l ∈ w) : WithoutTags l.value.toList := by
  cases l with
  | name n =>
    refine withoutTags_of_not_mem fun hmem => ?_
    have hbracket := (h.nameChars hl).continuesName hmem
    exact absurd hbracket (by decide)
  | brackets =>
    have hvalue : Lexeme.brackets.value.toList = ['[', ']'] := by decide
    rw [hvalue]
    exact List.isChain_cons_cons.mpr ⟨fun _ => by decide, List.isChain_singleton _⟩
  | bar | question | openGroup | closeGroup | openGeneric | closeGeneric | comma =>
    exact withoutTags_of_not_mem (by decide)

theorem SyntaxError.harmless_at {text : String} {tokens rest : List Token} {reason : Reason}
    (h : reason.Harmless) : (SyntaxError.at text tokens rest reason).reason.Harmless := by
  unfold SyntaxError.at
  cases tokens with
  | nil => trivial
  | cons => exact h

namespace Expr

theorem harmless_of_ofTokens_eq_error {cs : List Char} {text : String} {tokens : List Token}
    {error : SyntaxError} (hs : Spells cs (tokens.map Token.lexeme))
    (h : ofTokens text tokens = .error error) : error.reason.Harmless := by
  rw [ofTokens_eq_ofOutcome] at h
  obtain ⟨used, rest, rfl, ⟨es, -, -, hread⟩ | ⟨reason, hstops, hread⟩⟩ :=
    readAlternatives_cases tokens
  · rw [hread] at h
    cases rest with
    | nil => cases h
    | cons token rest =>
      have hmem : token.lexeme ∈ (used ++ token :: rest).map Token.lexeme :=
        List.mem_map_of_mem (by simp)
      rw [← Except.error.inj h]
      exact SyntaxError.harmless_at (Lexeme.withoutTags_value hs hmem)
  · rw [hread] at h
    rw [← Except.error.inj h]
    exact SyntaxError.harmless_at hstops.harmless

/-- A text that is no annotation is refused for a reason that quotes a token, a mark or a single
character. -/
theorem harmless_of_parse_eq_error {text : String} {error : SyntaxError}
    (h : parse text = .error error) : error.reason.Harmless := by
  rw [parse] at h
  cases hs : Token.scanFrom 0 text.toList with
  | error p =>
    simp only [Token.scan, hs, Except.mapError, bind, Except.bind] at h
    rw [← Except.error.inj h]
    trivial
  | ok tokens =>
    simp only [Token.scan, hs, Except.mapError, bind, Except.bind] at h
    exact harmless_of_ofTokens_eq_error (spells_of_scanFrom hs) h

/-- The message has tags only where the text has. -/
theorem withoutTags_message {text : String} {error : SyntaxError}
    (h : parse text = .error error) (ht : WithoutTags text.toList) :
    WithoutTags error.message.toList := by
  have htext : WithoutTags error.text.toList := by rwa [text_of_parse_eq_error h]
  exact SyntaxError.withoutTags_message (harmless_of_parse_eq_error h) htext

end Expr

end TypeAnnotation
