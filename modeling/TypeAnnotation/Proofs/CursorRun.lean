import TypeAnnotation.Proofs.Routine

/-! # Runs of a cursor

Every step leaves the cursor before a tail of the tokens that were ahead of it, also on failure, and
so does any row of steps. It fails at the place where it leaves the cursor. Only to advance at the
end, or to expect there the empty kind that the end has, runs out of tokens.
-/
namespace TypeAnnotation
open Token

namespace Cursor
variable {text : String} {tokens : List Token} {c : Cursor}

def place (c : Cursor) : Nat :=
  match c.tokens[c.index]? with
  | some token => token.position
  | none => c.text.length

def after (c : Cursor) (steps : List Step) : Cursor := steps.foldl (fun c s => (c.step s).2) c

/-- A cursor among the tokens of a text, or at their end. -/
structure Among (text : String) (tokens : List Token) (c : Cursor) : Prop where
  text_eq : c.text = text
  tokens_eq : c.tokens = tokens
  index_le : c.index ≤ tokens.length

/-- What a step does on a cursor. It ends, also if it is taken token by token, and never goes back or
past the end. Looking does not move the cursor, and reading an expression takes some tokens. It runs
out of tokens only at the end, if it advances or expects the empty kind. An error is at the place
where the cursor is left. -/
structure Step.Safe (s : Step) (c : Cursor) : Prop where
  routine : s.routine c = some (c.step s)
  among : (c.step s).2.Among c.text c.tokens
  index_le : c.index ≤ (c.step s).2.index
  still : s = .peek ∨ s = .expectEnd ∨ (∃ message, s = .fail message) → (c.step s).2 = c
  progress : s = .readUnion ∨ s = .readTerm ∨ (∃ n, s = .readGeneric n) →
    ∀ answer, (c.step s).1 = .ok answer → c.index < (c.step s).2.index
  outOfTokens : (c.step s).1 = .error .outOfTokens ↔
    (s = .advance ∨ s = .expect "") ∧ c.index = c.tokens.length
  error : ∀ error, (c.step s).1 = .error (.syntaxError error) →
    error.text = c.text ∧ error.position = (c.step s).2.place

/-! ## One step -/

theorem rest_eq_nil_iff (hc : c.index ≤ c.tokens.length) :
    c.rest = [] ↔ c.index = c.tokens.length := by
  rw [rest, List.drop_eq_nil_iff]
  exact ⟨fun h => Nat.le_antisymm hc h, fun h => h.ge⟩

theorem placeOf_rest (c : Cursor) : placeOf c.text c.rest = c.place := by
  rw [place, ← List.head?_drop, ← rest]
  cases c.rest <;> rfl

theorem index_le_goTo {rest : List Token} (hc : c.index ≤ c.tokens.length) (h : rest <:+ c.rest) :
    c.index ≤ (c.goTo rest).index := by
  have hlength := h.length_le
  simp only [Cursor.rest, List.length_drop, goTo] at hlength ⊢
  omega

theorem among_goTo (c : Cursor) (rest : List Token) : (c.goTo rest).Among c.text c.tokens :=
  ⟨rfl, rfl, Nat.sub_le ..⟩

theorem rest_map {α β : Type} (f : α → β) (o : Outcome α) :
    Outcome.rest (o.map fun (a, rest) => (f a, rest)) = o.rest := by
  cases o <;> rfl

/-- Reading leaves a tail of the tokens ahead, as the routine that it stands for does. -/
theorem ofReading_cases {m : Routine Expr} {r : Reading Expr c.rest}
    (h : m.Reads c.rest r.outcome) :
    ∃ o : Outcome Answer, o.rest <:+ c.rest ∧ c.ofReading r = c.answer o := by
  refine ⟨_, ?_, ofReading_eq r⟩
  rw [rest_map]
  exact h.suffix

/-- The next token is taken, unless there is none. -/
theorem advance_cases (hc : c.index ≤ c.tokens.length) :
    (∃ token rest, c.rest = token :: rest ∧ c.advance = c.answer (.ok (.token token, rest))) ∨
      c.rest = [] ∧ c.advance = (.error .outOfTokens, c) := by
  cases h : c.rest with
  | nil => exact .inr ⟨rfl, by rw [advance, h]⟩
  | cons token rest =>
    have hreads : Routine.Reads (do return Answer.token (← Routine.take)) c.rest
        (.ok (.token token, rest)) := by
      rw [h]
      exact (Routine.Reads.take token rest).andThen (.pure (Answer.token token) rest)
    have hadvance := (Routine.run_take c).symm.trans (hreads.run_rest hc)
    exact .inl ⟨token, rest, rfl, Option.some.inj hadvance⟩

/-- A step comes to an outcome that leaves a tail of the tokens ahead, or runs out of tokens. -/
theorem step_cases (hc : c.index ≤ c.tokens.length) (s : Step) :
    (∃ o : Outcome Answer, o.rest <:+ c.rest ∧ c.step s = c.answer o) ∨
      (s = .advance ∨ s = .expect "") ∧ c.rest = [] ∧ c.step s = (.error .outOfTokens, c) := by
  have hok (a : Answer) : c.answer (.ok (a, c.rest)) = (.ok a, c) := by
    rw [answer, goTo_rest hc]
  have herror (reason : Reason) :
      c.answer (.error (reason, c.rest) : Outcome Answer) = (.error (c.failure reason), c) := by
    rw [answer, goTo_rest hc]
  cases s with
  | peek => exact .inl ⟨_, List.suffix_rfl, (hok _).symm⟩
  | advance =>
    rcases advance_cases hc with ⟨token, rest, h, hadvance⟩ | ⟨h, hadvance⟩
    · exact .inl ⟨_, h ▸ List.suffix_cons token rest, hadvance⟩
    · exact .inr ⟨.inl rfl, h, hadvance⟩
  | expect kind =>
    rw [step]
    split
    · rename_i hkind
      rcases advance_cases hc with ⟨token, rest, h, hadvance⟩ | ⟨h, hadvance⟩
      · exact .inl ⟨_, h ▸ List.suffix_cons token rest, hadvance⟩
      · rw [peek_eq, h] at hkind
        exact .inr ⟨.inr (congrArg Step.expect hkind.symm), h, hadvance⟩
    · exact .inl ⟨_, List.suffix_rfl, (herror _).symm⟩
  | expectEnd =>
    rw [step]
    split
    · exact .inl ⟨_, List.suffix_rfl, (herror _).symm⟩
    · exact .inl ⟨_, List.suffix_rfl, (hok _).symm⟩
  | fail message => exact .inl ⟨_, List.suffix_rfl, (herror _).symm⟩
  | readUnion => exact .inl (ofReading_cases (Routine.reads_readUnion c.rest))
  | readTerm => exact .inl (ofReading_cases (Routine.reads_term c.rest))
  | readGeneric n => exact .inl (ofReading_cases (Routine.reads_generic n c.rest))
  | wrapArrays e =>
    exact .inl ⟨.ok (.expr _, _), (Routine.reads_wrapArrays e c.rest).suffix, rfl⟩

theorem snd_answer {α : Type} (c : Cursor) (o : Outcome α) : (c.answer o).2 = c.goTo o.rest := by
  cases o <;> rfl

theorem exists_goTo (hc : c.index ≤ c.tokens.length) (s : Step) :
    ∃ rest, rest <:+ c.rest ∧ (c.step s).2 = c.goTo rest := by
  rcases step_cases hc s with ⟨o, ho, hs⟩ | ⟨-, -, hs⟩
  · exact ⟨o.rest, ho, by rw [hs, snd_answer]⟩
  · exact ⟨c.rest, List.suffix_rfl, by rw [hs, goTo_rest hc]⟩

/-- The only failures are running out of tokens and errors at the place of the cursor. -/
theorem failure_cases (hc : c.index ≤ c.tokens.length) {s : Step} {failure : Failure}
    (h : (c.step s).1 = .error failure) :
    (∃ reason, failure = (c.step s).2.failure reason) ∨
      failure = .outOfTokens ∧ (s = .advance ∨ s = .expect "") ∧ c.rest = [] := by
  rcases step_cases hc s with ⟨o, -, hs⟩ | ⟨htakes, hrest, hs⟩
  · rw [hs] at h ⊢
    cases o with
    | ok => cases h
    | error stop => exact .inl ⟨stop.1, (Except.error.inj h).symm⟩
  · rw [hs] at h
    exact .inr ⟨(Except.error.inj h).symm, htakes, hrest⟩

theorem step_eq_self {s : Step} (h : s = .peek ∨ s = .expectEnd ∨ ∃ message, s = .fail message) :
    (c.step s).2 = c := by
  rcases h with rfl | rfl | ⟨message, rfl⟩
  · rfl
  · rw [step]
    split <;> rfl
  · rfl

/-- What is read takes some tokens. -/
theorem index_lt_ofReading (hc : c.index ≤ c.tokens.length) {r : Reading Expr c.rest} {a : Answer}
    (h : (c.ofReading r).1 = .ok a) : c.index < (c.ofReading r).2.index := by
  cases r with
  | stopped => cases h
  | value e rest shorter =>
    simp only [Cursor.rest, List.length_drop, ofReading, goTo] at shorter ⊢
    omega

theorem step_outOfTokens {s : Step} (h : s = .advance ∨ s = .expect "") (hrest : c.rest = []) :
    c.step s = (.error .outOfTokens, c) := by
  have hadvance : c.advance = (.error .outOfTokens, c) := by rw [advance, hrest]
  rcases h with rfl | rfl
  · exact hadvance
  · have hpeek : c.peek = "" := by rw [peek, hrest]
    rw [step, if_pos hpeek, hadvance]

theorem step_safe (hc : c.index ≤ c.tokens.length) (s : Step) : s.Safe c := by
  obtain ⟨rest, hsuffix, hgo⟩ := exists_goTo hc s
  refine ⟨routine_eq hc s, ?_, ?_, step_eq_self, ?_, ?_, ?_⟩
  · rw [hgo]
    exact among_goTo c rest
  · rw [hgo]
    exact index_le_goTo hc hsuffix
  · rintro (rfl | rfl | ⟨n, rfl⟩) a ha
    · exact index_lt_ofReading hc ha
    · exact index_lt_ofReading hc ha
    · exact index_lt_ofReading hc ha
  · rw [← rest_eq_nil_iff hc]
    constructor
    · intro h
      rcases failure_cases hc h with ⟨reason, hreason⟩ | ⟨-, htakes, hrest⟩
      · cases hreason
      · exact ⟨htakes, hrest⟩
    · rintro ⟨htakes, hrest⟩
      rw [step_outOfTokens htakes hrest]
  · intro error h
    rcases failure_cases hc h with ⟨reason, hreason⟩ | ⟨hne, -⟩
    · obtain rfl := Failure.syntaxError.inj hreason
      refine ⟨?_, placeOf_rest _⟩
      rw [hgo]
      rfl
    · cases hne

/-! ## Rows of steps -/

@[simp] theorem after_cons (c : Cursor) (s : Step) (steps : List Step) :
    c.after (s :: steps) = (c.step s).2.after steps := rfl

theorem length_run (c : Cursor) (steps : List Step) : (c.run steps).length = steps.length := by
  induction steps generalizing c with
  | nil => rfl
  | cons s steps ih => rw [run, List.length_cons, ih, List.length_cons]

theorem run_append (c : Cursor) (before steps : List Step) :
    c.run (before ++ steps) = c.run before ++ (c.after before).run steps := by
  induction before generalizing c with
  | nil => rfl
  | cons s before ih => rw [List.cons_append, run, run, ih, after_cons, List.cons_append]

theorem Among.safe (h : c.Among text tokens) (s : Step) : s.Safe c := by
  obtain ⟨rfl, rfl, hc⟩ := h
  exact step_safe hc s

theorem Among.step (h : c.Among text tokens) (s : Step) : (c.step s).2.Among text tokens := by
  have hsafe := (h.safe s).among
  rwa [h.text_eq, h.tokens_eq] at hsafe

theorem Among.after (h : c.Among text tokens) (steps : List Step) :
    (c.after steps).Among text tokens := by
  induction steps generalizing c with
  | nil => exact h
  | cons s steps ih => exact ih (h.step s)

/-- The places in a run only go on. -/
theorem Among.pairwise_index (h : c.Among text tokens) (steps : List Step) :
    (c.index :: (c.run steps).map (·.2.index)).Pairwise (· ≤ ·) := by
  induction steps generalizing c with
  | nil => exact List.pairwise_singleton ..
  | cons s steps ih =>
    have hnext := ih (h.step s)
    have hle : c.index ≤ (c.step s).2.index := (h.safe s).index_le
    refine List.pairwise_cons.mpr ⟨fun i hi => ?_, hnext⟩
    rcases List.mem_cons.mp hi with rfl | hi
    · exact hle
    · exact hle.trans (List.rel_of_pairwise_cons hnext hi)

theorem ofText_eq_ok_iff {start : Cursor} :
    ofText text = .ok start ↔ ∃ tokens, Token.scan text = .ok tokens ∧ start = ⟨text, tokens, 0⟩ := by
  rw [ofText]
  cases Token.scan text with
  | error => exact ⟨nofun, nofun⟩
  | ok tokens =>
    constructor
    · intro h
      exact ⟨tokens, rfl, (Except.ok.inj h).symm⟩
    · rintro ⟨tokens', h, rfl⟩
      obtain rfl := Except.ok.inj h
      rfl

/-- A cursor starts before the first token of a text. Of any row of steps, each is taken on the
cursor that those before it left, whatever they came to, and there it is safe; and the cursor never
goes back. -/
theorem run_safe {start : Cursor} (h : ofText text = .ok start) (steps : List Step) :
    Token.scan text = .ok start.tokens ∧ start.text = text ∧ start.index = 0 ∧
    (start.index :: (start.run steps).map (·.2.index)).Pairwise (· ≤ ·) ∧
    ∀ before s rest, steps = before ++ s :: rest →
      (start.run steps)[before.length]? = some ((start.after before).step s) ∧
      (start.after before).Among text start.tokens ∧ s.Safe (start.after before) := by
  obtain ⟨tokens, hscan, rfl⟩ := ofText_eq_ok_iff.mp h
  have hstart : Among text tokens ⟨text, tokens, 0⟩ := ⟨rfl, rfl, Nat.zero_le _⟩
  refine ⟨hscan, rfl, rfl, hstart.pairwise_index steps, ?_⟩
  rintro before s rest rfl
  have hbefore := hstart.after before
  refine ⟨?_, hbefore, hbefore.safe s⟩
  rw [run_append, List.getElem?_append_right (length_run ..).le, length_run, Nat.sub_self]
  rfl

/-- A union that ends with a bar is read to its end, where no token can be taken. -/
theorem run_safe_open_bar :
    ∃ start : Cursor, ofText "a|" = .ok start ∧ start.tokens = [⟨.name "a", 0⟩, ⟨.bar, 1⟩] ∧
      Step.readUnion.Safe start ∧ Step.advance.Safe (start.after [.readUnion]) := by
  have hscan : Token.scan "a|" = .ok [⟨.name "a", 0⟩, ⟨.bar, 1⟩] := by
    rw [scan_eq_ok_iff]
    have hname : NameChars ['a'] := by decide
    have hends : EndsName ['|'] := endsName_cons (by decide) []
    refine (scanFrom_name hname hends 0).trans ?_
    rw [scanFrom_mark rfl, scanFrom_nil]
    rfl
  have hstart := ofText_eq_ok_iff.mpr ⟨_, hscan, rfl⟩
  obtain ⟨-, -, -, -, hsteps⟩ := run_safe hstart [.readUnion, .advance]
  exact ⟨_, hstart, rfl, (hsteps [] .readUnion [.advance] rfl).2.2,
    (hsteps [.readUnion] .advance [] rfl).2.2⟩

end Cursor

end TypeAnnotation
