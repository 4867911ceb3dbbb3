import TypeAnnotation.Proofs.Reading

/-! # What is accepted

A row of tokens is read as an expression exactly if it is a union by the grammar that stands for
that expression. As the reader is a function, no row stands for two expressions.
-/
namespace TypeAnnotation
open Grammar Token

namespace Expr

/-- All that reading a row of tokens as alternatives can come to. -/
theorem readAlternatives_cases (tokens : List Token) :
    ∃ used rest, tokens = used ++ rest ∧
      ((∃ es, Alternatives (used.map lexeme) es ∧ Closed (used.map lexeme) (next rest) ∧
          (readAlternatives tokens).outcome = .ok (es, rest)) ∨
        ∃ reason, UnionStops (used.map lexeme) (next rest) reason ∧
          (readAlternatives tokens).outcome = .error (reason, rest)) := by
  obtain ⟨w, ahead, hw, h⟩ := unionDecided (tokens.map lexeme)
  obtain ⟨used, rest, rfl, rfl, rfl⟩ := List.map_eq_append_iff.mp hw
  refine ⟨used, rest, rfl, ?_⟩
  rcases h with ⟨es, hes, hc⟩ | ⟨reason, hr⟩
  · exact .inl ⟨es, hes, hc, hes.read rfl hc⟩
  · exact .inr ⟨reason, hr, hr.read rfl rfl⟩

def ofOutcome (text : String) (tokens : List Token) :
    Outcome (List Expr) → Except SyntaxError Expr
  | .error (reason, rest) => .error (.at text tokens rest reason)
  | .ok (es, []) => .ok (ofAlternatives es)
  | .ok (_, token :: rest) =>
    .error (.at text tokens (token :: rest) (.unexpectedValue token.lexeme.value))

theorem ofTokens_eq_ofOutcome (text : String) (tokens : List Token) :
    ofTokens text tokens = ofOutcome text tokens (readAlternatives tokens).outcome := by
  rw [ofTokens, readUnion]
  cases readAlternatives tokens with
  | stopped => rfl
  | value es rest => cases rest <;> rfl

/-- A row of tokens is an expression exactly if the grammar says so. -/
theorem ofTokens_eq_ok_iff (text : String) (tokens : List Token) (e : Expr) :
    ofTokens text tokens = .ok e ↔ Derives (tokens.map lexeme) e := by
  rw [ofTokens_eq_ofOutcome]
  constructor
  · intro h
    obtain ⟨used, rest, rfl, ⟨es, hes, -, hread⟩ | ⟨reason, -, hread⟩⟩ :=
      readAlternatives_cases tokens
    · rw [hread] at h
      cases rest with
      | nil =>
        obtain rfl := Except.ok.inj h
        exact ⟨es, by rwa [List.append_nil], rfl⟩
      | cons => cases h
    · rw [hread] at h
      cases h
  · rintro ⟨es, hes, rfl⟩
    have hread : (readAlternatives (tokens ++ [])).outcome = .ok (es, []) :=
      hes.read rfl ⟨⟨nofun, nofun⟩, nofun⟩
    rw [List.append_nil] at hread
    rw [hread]
    rfl

/-- A text is an annotation exactly if the grammar derives its tokens. -/
theorem parse_eq_ok_iff (text : String) (e : Expr) :
    parse text = .ok e ↔ ∃ tokens, scan text = .ok tokens ∧ Derives (tokens.map lexeme) e := by
  rw [parse]
  cases hs : scan text with
  | error error => simp [bind, Except.bind]
  | ok tokens => simp [bind, Except.bind, ofTokens_eq_ok_iff]

/-- Whatever is wrong with a text, the error holds the text as it stands. -/
theorem text_of_parse_eq_error {text : String} {error : SyntaxError}
    (h : parse text = .error error) : error.text = text := by
  rw [parse] at h
  cases hs : scanFrom 0 text.toList with
  | error p =>
    simp only [scan, hs, Except.mapError, bind, Except.bind] at h
    exact (Except.error.inj h) ▸ rfl
  | ok tokens =>
    simp only [scan, hs, Except.mapError, bind, Except.bind, ofTokens_eq_ofOutcome] at h
    cases hread : (readAlternatives tokens).outcome with
    | error p =>
      rw [hread] at h
      exact (Except.error.inj h) ▸ rfl
    | ok p =>
      obtain ⟨es, rest⟩ := p
      rw [hread] at h
      cases rest with
      | nil => cases h
      | cons token rest => exact (Except.error.inj h) ▸ rfl

end Expr

/-- A row of lexemes stands for one expression at most. -/
theorem Grammar.Derives.unique {w : List Lexeme} {e e' : Expr} (h : Derives w e)
    (h' : Derives w e') : e = e' := by
  have hw : (w.map fun l => (⟨l, 0⟩ : Token)).map lexeme = w := by
    rw [List.map_map]
    exact List.map_id w
  rw [← hw, ← Expr.ofTokens_eq_ok_iff ""] at h h'
  exact Except.ok.inj (h.symm.trans h')

/-- Annotations are the texts whose tokens the grammar derives, and each is read as what the
grammar makes of them, which is one expression only. Any other text is refused as it stands. -/
theorem Expr.parse_exactly_derived :
    (∀ (text : String) (e : Expr), parse text = .ok e ↔
      ∃ tokens, scan text = .ok tokens ∧ Derives (tokens.map lexeme) e) ∧
    (∀ (w : List Lexeme) (e e' : Expr), Derives w e → Derives w e' → e = e') ∧
    ∀ text : String, (∃ e, parse text = .ok e) ∨
      ∃ reason position, parse text = .error ⟨reason, position, text⟩ := by
  refine ⟨parse_eq_ok_iff, fun w e e' h h' => h.unique h', fun text => ?_⟩
  cases hp : parse text with
  | ok e => exact .inl ⟨e, rfl⟩
  | error error => exact .inr ⟨error.reason, error.position, by rw [← text_of_parse_eq_error hp]⟩

end TypeAnnotation
