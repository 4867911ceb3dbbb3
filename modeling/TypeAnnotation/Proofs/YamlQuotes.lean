import TypeAnnotation.Proofs.YamlScalars

/-! # Reading quoted YAML scalars

A string can be told from its text in single or in double quotes, wherever the lines were folded,
and so from the way in which it is written.
-/
namespace TypeAnnotation.Document.Yaml

open TypeAnnotation.Yaml (isBreak isGapOrEnd)

/-! ## In single quotes -/

theorem readSingle_spaces {breaks : Nat} (h : breaks ≠ 0) (n : Nat) (rest : List Char) :
    readSingle breaks (List.replicate n ' ' ++ rest) = readSingle breaks rest := by
  induction n with
  | zero => rfl
  | succ n ih =>
    rw [List.replicate_succ, List.cons_append, readSingle, if_pos ⟨rfl, h⟩]
    · exact ih
    all_goals simp

theorem readSingle_breaks (breaks n : Nat) (rest : List Char) :
    readSingle breaks (List.replicate n '\n' ++ rest) = readSingle (breaks + n) rest := by
  induction n generalizing breaks with
  | zero => rfl
  | succ n ih =>
    rw [List.replicate_succ, List.cons_append, readSingle, ih]
    congr 1
    omega

def doubleQuote (c : Char) : List Char := if c == '\x27' then [c, c] else [c]

theorem readSingle_doubleQuote {breaks : Nat} {c : Char} (hbreak : c ≠ '\n')
    (hspace : breaks = 0 ∨ c ≠ ' ') (rest : List Char) :
    readSingle breaks (doubleQuote c ++ rest) =
      (readSingle 0 rest).map fun (text, after) => (foldBreaks breaks ++ c :: text, after) := by
  unfold doubleQuote
  split
  · rename_i hquote
    obtain rfl := beq_iff_eq.mp hquote
    rw [List.cons_append, List.singleton_append, readSingle]
  · rename_i hquote
    have hplain : ¬ (c = ' ' ∧ breaks ≠ 0) := by
      rintro ⟨rfl, hne⟩
      rcases hspace with h | h
      · exact hne h
      · exact h rfl
    rw [List.singleton_append, readSingle, if_neg hplain]
    · exact hbreak
    · rintro rest rfl
      exact absurd rfl hquote
    · rintro rfl
      exact absurd rfl hquote

/-- Characters of a line are read one after another, the first of them behind the line feeds. -/
theorem readSingle_run {breaks : Nat} {run : List Char} (hne : run ≠ []) (hbreak : '\n' ∉ run)
    (hspace : breaks = 0 ∨ ' ' ∉ run) (rest : List Char) :
    readSingle breaks (run.flatMap doubleQuote ++ rest) =
      (readSingle 0 rest).map fun (text, after) => (foldBreaks breaks ++ (run ++ text), after) := by
  induction run generalizing breaks with
  | nil => exact absurd rfl hne
  | cons c run ih =>
    rw [List.mem_cons, not_or] at hbreak
    have hc : breaks = 0 ∨ c ≠ ' ' := hspace.imp_right fun h heq => h (heq ▸ List.mem_cons_self)
    rw [List.flatMap_cons, List.append_assoc, readSingle_doubleQuote (Ne.symm hbreak.1) hc]
    by_cases hrun : run = []
    · rw [hrun]
      rfl
    · rw [ih hrun hbreak.2 (.inl rfl)]
      cases readSingle 0 rest <;> rfl

theorem flatMap_doubleQuote_spaces {run : List Char} (h : ∀ c ∈ run, c = ' ') :
    run.flatMap doubleQuote = run := by
  induction run with
  | nil => rfl
  | cons c run ih =>
    obtain ⟨rfl, hrun⟩ := List.forall_mem_cons.mp h
    rw [List.flatMap_cons, ih hrun]
    rfl

/-- Runs of a text that single quotes can hold: line feeds are its only breaks, and no space stands
next to one. -/
structure SingleRuns (runs : List (List Char)) : Prop where
  classes : ClassRuns singleClass runs
  breaks : ∀ c ∈ runs.flatten, isBreak c = true → c = '\n'
  behindSpace : runs.flatten.IsChain fun c d => isSpace c = true → isBreak d = false
  behindBreak : runs.flatten.IsChain fun c d => isBreak c = true → isSpace d = false

namespace SingleRuns
variable {run next : List Char} {runs : List (List Char)}

theorem tail (h : SingleRuns (run :: runs)) : SingleRuns runs := by
  have hspace := h.behindSpace
  have hbreak := h.behindBreak
  rw [List.flatten_cons, List.isChain_append] at hspace hbreak
  exact ⟨h.classes.tail, fun c hc => h.breaks c (List.mem_append_right _ hc), hspace.2.1,
    hbreak.2.1⟩

/-- Behind spaces and behind line feeds stands neither. -/
theorem next_plain (h : SingleRuns (run :: next :: runs)) {c : Char} (hc : c ∈ run)
    (hclass : singleClass c ≠ 2) : ∀ d ∈ next, singleClass d = 2 := by
  have hlast : run.getLast? = some (run.getLast (List.ne_nil_of_mem hc)) :=
    List.getLast?_eq_some_getLast _
  obtain ⟨d, ds, rfl⟩ := List.exists_cons_of_ne_nil (h.classes.nonempty next (by simp))
  have hspaces := h.behindSpace
  have hbreaks := h.behindBreak
  rw [List.flatten_cons, List.isChain_append] at hspaces hbreaks
  have hspace := hspaces.2.2 _ hlast d rfl
  have hbreak := hbreaks.2.2 _ hlast d rfl
  have hsame := h.classes.uniform run List.mem_cons_self c hc _
    (List.getLast_mem (List.ne_nil_of_mem hc))
  have hdiffer := (List.isChain_cons_cons.mp h.classes.differ).1 c hc d List.mem_cons_self
  have hd : singleClass d = 2 := by
    revert hclass hdiffer
    rw [hsame]
    unfold singleClass
    cases hs : isSpace (run.getLast (List.ne_nil_of_mem hc)) <;>
      cases hb : isBreak (run.getLast (List.ne_nil_of_mem hc)) <;>
      simp_all
  intro e he
  exact (h.classes.uniform (d :: ds) (by simp) e he d List.mem_cons_self).trans hd

/-! A run is of the class of its first character. -/

section
variable {c : Char} {cs : List Char} (h : SingleRuns ((c :: cs) :: runs))
include h

theorem singleClass_eq : ∀ d ∈ c :: cs, singleClass d = singleClass c := fun d hd =>
  h.classes.uniform (c :: cs) List.mem_cons_self d hd c List.mem_cons_self

theorem eq_space (hc : isSpace c = true) : ∀ d ∈ c :: cs, d = ' ' := by
  intro d hd
  have hclass := h.singleClass_eq d hd
  simp only [singleClass, hc, if_true] at hclass
  split at hclass
  · rename_i hd
    exact beq_iff_eq.mp hd
  · split at hclass <;> cases hclass

theorem eq_replicate (hc : isBreak c = true) :
    c :: cs = List.replicate (cs.length + 1) '\n' := by
  obtain rfl := h.breaks c (List.mem_append_left _ List.mem_cons_self) hc
  refine List.eq_replicate_iff.mpr ⟨rfl, fun d hd => ?_⟩
  apply h.breaks d (List.mem_append_left _ hd)
  have hclass := h.singleClass_eq d hd
  by_contra hd
  revert hclass
  rw [Bool.not_eq_true] at hd
  unfold singleClass
  rw [hd]
  cases isSpace d <;> decide

theorem eq_two (hspace : isSpace c = false) (hbreak : isBreak c = false) :
    ∀ d ∈ c :: cs, singleClass d = 2 := by
  intro d hd
  rw [h.singleClass_eq d hd, singleClass, hspace, hbreak]
  rfl

end

end SingleRuns

def singleRun (fold : Bool) (indent : Nat) (first last : Bool) (run : List Char) (p : Pen) : Pen :=
  if isSpace (run.headD 'x') then
    if run.length == 1 && lineWidth < p.column && fold && !first && !last then p.toIndent indent
    else p.put run
  else if isBreak (run.headD 'x') then
    let p := if run.headD 'x' == '\n' then p.breakLine '\n' else p
    (run.foldl Pen.breakLine p).toIndent indent
  else p.put (run.flatMap doubleQuote)

theorem writeSingleRuns_cons (fold : Bool) (indent : Nat) (first : Bool) (run : List Char)
    (runs : List (List Char)) (p : Pen) :
    writeSingleRuns fold indent first (run :: runs) p =
      writeSingleRuns fold indent false runs
        (singleRun fold indent first runs.isEmpty run p) := rfl

/-- A run is written as it is, as line feeds with spaces behind them, or with its quotes doubled. -/
theorem singleRun_cases (fold : Bool) {indent : Nat} (first : Bool) {run : List Char}
    {runs : List (List Char)} (h : SingleRuns (run :: runs))
    (hfit : indent ≤ lineWidth ∨ ' ' ∉ run) (p : Pen) :
    (run = [' '] ∧ runs ≠ [] ∧ (singleRun fold indent first runs.isEmpty run p).text =
        p.text ++ '\n' :: List.replicate indent ' ') ∨
      ((∀ c ∈ run, c = ' ') ∧ (singleRun fold indent first runs.isEmpty run p).text = p.text ++ run) ∨
      (∃ n, run = List.replicate (n + 1) '\n' ∧
        (singleRun fold indent first runs.isEmpty run p).text =
          p.text ++ (List.replicate (n + 2) '\n' ++ List.replicate indent ' ')) ∨
      ((∀ c ∈ run, singleClass c = 2) ∧ (singleRun fold indent first runs.isEmpty run p).text =
        p.text ++ run.flatMap doubleQuote) := by
  obtain ⟨c, cs, rfl⟩ := List.exists_cons_of_ne_nil (h.classes.nonempty run List.mem_cons_self)
  unfold singleRun
  rw [List.headD_cons]
  cases hspace : isSpace c with
  | true =>
    have hspaces := h.eq_space hspace
    rw [if_pos rfl]
    split
    · rename_i hfold
      simp only [Bool.and_eq_true, decide_eq_true_eq, beq_iff_eq, Bool.not_eq_true',
        List.isEmpty_eq_false_iff] at hfold
      obtain ⟨⟨⟨⟨hone, hwide⟩, -⟩, -⟩, hruns⟩ := hfold
      obtain rfl : c = ' ' := hspaces c List.mem_cons_self
      have hindent : indent < p.column := by
        rcases hfit with hfit | hfit
        · omega
        · exact absurd List.mem_cons_self hfit
      refine .inl ⟨?_, hruns, Pen.text_toIndent (.inr hindent)⟩
      rw [List.length_cons, Nat.succ_inj, List.length_eq_zero_iff] at hone
      rw [hone]
    · exact .inr (.inl ⟨hspaces, Pen.text_put p _⟩)
  | false =>
    rw [if_neg Bool.false_ne_true]
    cases hbreak : isBreak c with
    | true =>
      have hrun := h.eq_replicate hbreak
      obtain rfl : c = '\n' := (List.cons.inj (hrun.trans List.replicate_succ)).1
      obtain ⟨htext, hcolumn⟩ := Pen.text_breakLines (cs.length + 1) (p.breakLine '\n') ⟨rfl, rfl, rfl⟩
      refine .inr (.inr (.inl ⟨cs.length, hrun, ?_⟩))
      rw [if_pos rfl, beq_self_eq_true, if_pos rfl, hrun]
      dsimp only
      rw [hcolumn.text_toIndent, htext, Pen.text_breakLine, List.append_assoc, List.append_assoc,
        List.replicate_succ (n := cs.length + 1)]
      rfl
    | false =>
      rw [if_neg Bool.false_ne_true]
      exact .inr (.inr (.inr ⟨h.eq_two hspace hbreak, Pen.text_put p _⟩))

/-- What is written for runs is read back, behind line feeds too if the first run goes on with the
line. -/
def ReadsRuns (runs : List (List Char)) (written : List Char) : Prop :=
  ∀ breaks rest, (breaks = 0 ∨ ∀ run ∈ runs.head?, ∀ c ∈ run, singleClass c = 2) →
    rest.head? ≠ some '\x27' →
    readSingle breaks (written ++ '\x27' :: rest) = some (foldBreaks breaks ++ runs.flatten, rest)

theorem readsRuns_nil : ReadsRuns [] [] := by
  intro breaks rest _ hrest
  rw [List.nil_append, readSingle]
  · rw [List.flatten_nil, List.append_nil]
  · rintro after rfl
    exact hrest rfl

namespace ReadsRuns
variable {run : List Char} {runs : List (List Char)} {written : List Char}

/-- A space that became a line feed. -/
theorem folded (h : ReadsRuns runs written)
    (hnext : ∀ next ∈ runs.head?, ∀ d ∈ next, singleClass d = 2) (column : Nat) :
    ReadsRuns ([' '] :: runs) ('\n' :: (List.replicate column ' ' ++ written)) := by
  intro breaks rest hbreaks hrest
  have hzero : breaks = 0 := hbreaks.resolve_right fun hclass =>
    absurd (hclass [' '] rfl ' ' List.mem_cons_self) (by decide)
  rw [hzero, List.cons_append, List.append_assoc, readSingle, readSingle_spaces (by decide),
    h 1 rest (.inr hnext) hrest]
  rfl

theorem spaces (h : ReadsRuns runs written) (hne : run ≠ []) (hspaces : ∀ c ∈ run, c = ' ') :
    ReadsRuns (run :: runs) (run ++ written) := by
  intro breaks rest hbreaks hrest
  obtain ⟨c, hc⟩ := List.exists_mem_of_ne_nil run hne
  have hzero : breaks = 0 := hbreaks.resolve_right fun hclass => by
    have hc2 := hclass run rfl c hc
    rw [hspaces c hc] at hc2
    exact absurd hc2 (by decide)
  have hbreak : '\n' ∉ run := fun hmem => absurd (hspaces '\n' hmem) (by decide)
  have hone := readSingle_run hne hbreak (.inl hzero) (written ++ '\x27' :: rest)
  rw [flatMap_doubleQuote_spaces hspaces] at hone
  rw [List.append_assoc, hone, h 0 rest (.inl rfl) hrest]
  rfl

/-- Line feeds, with one more in front and spaces behind them. -/
theorem breaks (h : ReadsRuns runs written)
    (hnext : ∀ next ∈ runs.head?, ∀ d ∈ next, singleClass d = 2) (n column : Nat) :
    ReadsRuns (List.replicate (n + 1) '\n' :: runs)
      (List.replicate (n + 2) '\n' ++ (List.replicate column ' ' ++ written)) := by
  intro breaks rest hbreaks hrest
  have hzero : breaks = 0 := hbreaks.resolve_right fun hclass =>
    absurd (hclass _ rfl '\n' (by simp)) (by decide)
  rw [hzero, List.append_assoc, List.append_assoc, readSingle_breaks, readSingle_spaces (by omega),
    h (0 + (n + 2)) rest (.inr hnext) hrest, Nat.zero_add]
  rfl

theorem plain (h : ReadsRuns runs written) (hne : run ≠ [])
    (hplain : ∀ c ∈ run, singleClass c = 2) :
    ReadsRuns (run :: runs) (run.flatMap doubleQuote ++ written) := by
  intro breaks rest _ hrest
  have hbreak : '\n' ∉ run := fun hmem => absurd (hplain '\n' hmem) (by decide)
  have hspace : ' ' ∉ run := fun hmem => absurd (hplain ' ' hmem) (by decide)
  rw [List.append_assoc, readSingle_run hne hbreak (.inr hspace), h 0 rest (.inl rfl) hrest]
  simp [foldBreaks]

end ReadsRuns

/-- Whatever was folded, the runs are read back. -/
theorem exists_writeSingleRuns (fold : Bool) {indent : Nat} {runs : List (List Char)}
    (h : SingleRuns runs) (hfit : indent ≤ lineWidth ∨ ' ' ∉ runs.flatten) (first : Bool) (p : Pen) :
    ∃ written, (writeSingleRuns fold indent first runs p).text = p.text ++ written ∧
      ReadsRuns runs written := by
  -- The pen is general, since each run moves it and a fold depends on its column.
  induction runs generalizing first p with
  | nil => exact ⟨[], (List.append_nil _).symm, readsRuns_nil⟩
  | cons run runs ih =>
    rw [List.flatten_cons, List.mem_append, not_or] at hfit
    obtain ⟨written, htext, hread⟩ := ih h.tail (hfit.imp_right And.right) false
      (singleRun fold indent first runs.isEmpty run p)
    have hne := h.classes.nonempty run List.mem_cons_self
    have hnext : ∀ c ∈ run, singleClass c ≠ 2 →
        ∀ next ∈ runs.head?, ∀ d ∈ next, singleClass d = 2 := by
      intro c hc hclass next hnext
      cases runs with
      | nil => cases hnext
      | cons other runs =>
        obtain rfl := Option.some.inj hnext
        exact h.next_plain hc hclass
    rw [writeSingleRuns_cons, htext]
    rcases singleRun_cases fold first h (hfit.imp_right And.left) p with
      ⟨rfl, -, hrun⟩ | ⟨hspaces, hrun⟩ | ⟨n, rfl, hrun⟩ | ⟨hplain, hrun⟩
    · rw [hrun, List.append_assoc]
      exact ⟨_, rfl, hread.folded (hnext ' ' List.mem_cons_self (by decide)) indent⟩
    · rw [hrun, List.append_assoc]
      exact ⟨_, rfl, hread.spaces hne hspaces⟩
    · rw [hrun, List.append_assoc, List.append_assoc]
      exact ⟨_, rfl, hread.breaks (hnext '\n' (by simp) (by decide)) n indent⟩
    · rw [hrun, List.append_assoc]
      exact ⟨_, rfl, hread.plain hne hplain⟩

theorem singleRuns_of_allowsSingle {text : List Char} (h : allowsSingle text = true) :
    SingleRuns (text.splitBy fun c d => singleClass c == singleClass d) := by
  simp only [allowsSingle, Bool.and_eq_true, Bool.not_eq_true'] at h
  obtain ⟨⟨hchars, hbreak⟩, hspace⟩ := h
  refine ⟨classRuns_splitBy singleClass text, ?_, ?_, ?_⟩
  · rw [List.flatten_splitBy]
    intro c hc hb
    have hchar := List.all_eq_true.mp hchars c hc
    simp only [Bool.or_eq_true, beq_iff_eq, Bool.and_eq_true, decide_eq_true_eq] at hchar
    rcases hchar with hchar | ⟨-, hlast⟩
    · exact hchar
    · simp only [isBreak, Bool.or_eq_true, beq_iff_eq] at hb
      rcases hb with ((hb | rfl) | rfl) | rfl
      · exact hb
      all_goals exact absurd hlast (by decide)
  · rw [List.flatten_splitBy]
    exact isChain_of_hasPair hspace
  · rw [List.flatten_splitBy]
    exact isChain_of_hasPair hbreak

theorem exists_writeSingle (fold : Bool) {indent : Nat} {s : String}
    (h : allowsSingle s.toList = true) (hfit : indent ≤ lineWidth ∨ ' ' ∉ s.toList) (p : Pen) :
    ∃ written, (∀ column, Writes column (.string s) written) ∧
      (writeSingle fold indent s.toList p).text = p.text ++ (p.gap ++ written) ∧
      (writeSingle fold indent s.toList p).Ended := by
  have hruns := singleRuns_of_allowsSingle h
  obtain ⟨written, htext, hread⟩ := exists_writeSingleRuns fold hruns
    (by rwa [List.flatten_splitBy]) true (p.spaced ['\x27'])
  rw [ReadsRuns, List.flatten_splitBy] at hread
  refine ⟨'\x27' :: (written ++ ['\x27']), fun column => ⟨fun rest hrest => ?_, ?_⟩, ?_,
    Pen.ended_closeMark _ _⟩
  · have hhead : rest.head? ≠ some '\x27' := by
      rcases hrest with ⟨after, rfl, -⟩ | ⟨rfl | hhead, -⟩
      · simp
      · simp
      · rw [hhead]
        decide
    rw [List.cons_append, List.append_assoc, List.singleton_append, readScalar,
      hread 0 rest (.inl rfl) hhead]
    exact congrArg (fun s => some (Document.string s, rest)) String.ofList_toList
  · exact ⟨'\x27', _, rfl, by decide, by decide, by decide, by decide,
      fun hc => absurd hc (by decide)⟩
  · rw [writeSingle, Pen.text_closeMark, htext, Pen.text_spaced]
    simp

/-! ## In double quotes -/

/-- A text as it is written in double quotes, with escapes, and with escaped line feeds wherever no
space is behind them. A space there is escaped. -/
inductive Quoted : List Char → List Char → Prop
  | nil : Quoted [] []
  | plain {text written : List Char} {c : Char} (hc : escape? c = none) :
      Quoted text written → Quoted (c :: text) (c :: written)
  | escape {text written e : List Char} {c : Char} (hc : escape? c = some e) :
      Quoted text written → Quoted (c :: text) (e ++ written)
  | fold {text written : List Char} (column : Nat) (htext : text.head? ≠ some ' ') :
      Quoted text written → Quoted text ('\\' :: '\n' :: (List.replicate column ' ' ++ written))
  | foldSpace {text written : List Char} (column : Nat) :
      Quoted (' ' :: text) (' ' :: written) → Quoted (' ' :: text)
        ('\\' :: '\n' :: (List.replicate column ' ' ++ '\\' :: ' ' :: written))

theorem ne_of_escape?_eq_none {c : Char} (h : escape? c = none) : c ≠ '"' ∧ c ≠ '\\' := by
  constructor
  all_goals
    rintro rfl
    exact absurd h (by decide)

theorem readDouble_plain {folded : Bool} {c : Char} (h : escape? c = none)
    (hspace : folded = false ∨ c ≠ ' ') (rest : List Char) :
    readDouble folded (c :: rest) =
      (readDouble false rest).map fun (text, after) => (c :: text, after) := by
  obtain ⟨hquote, hback⟩ := ne_of_escape?_eq_none h
  have hkept : ¬ (c = ' ' ∧ folded = true) := by
    rintro ⟨hc, rfl⟩
    rcases hspace with h | h
    · cases h
    · exact h hc
  rw [readDouble, if_neg hkept]
  · exact hquote
  all_goals
    intros
    exact hback ‹_›

theorem readDouble_letter {folded : Bool} {letter meant : Char}
    (h : TypeAnnotation.Yaml.Read.escape? letter = some meant) (hletter : letter ∉ ['\n', 'x', 'u', 'U'])
    (rest : List Char) :
    readDouble folded ('\\' :: letter :: rest) =
      (readDouble false rest).map fun (text, after) => (meant :: text, after) := by
  simp only [List.mem_cons, List.not_mem_nil, or_false, not_or] at hletter
  obtain ⟨hbreak, hx, hu, hU⟩ := hletter
  rw [readDouble, h]
  · rfl
  · exact fun heq => absurd heq hbreak
  · exact fun _ _ _ heq => absurd heq hx
  · exact fun _ _ _ _ _ heq => absurd heq hu
  · exact fun _ _ _ _ _ _ _ _ _ heq => absurd heq hU

/-- Every letter that is written is read as what it was written for. -/
theorem escape?_of_escapeLetter? {c letter : Char} (h : escapeLetter? c = some letter) :
    TypeAnnotation.Yaml.Read.escape? letter = some c ∧ letter ∉ ['\n', 'x', 'u', 'U'] := by
  have hall : ∀ {pairs : List (Char × Char)}, (∀ pair ∈ pairs,
      TypeAnnotation.Yaml.Read.escape? pair.2 = some pair.1 ∧ pair.2 ∉ ['\n', 'x', 'u', 'U']) →
      pairs.lookup c = some letter →
      TypeAnnotation.Yaml.Read.escape? letter = some c ∧ letter ∉ ['\n', 'x', 'u', 'U'] := by
    intro pairs hpairs hlookup
    obtain ⟨before, after, rfl, -⟩ := List.lookup_eq_some_iff.mp hlookup
    exact hpairs (c, letter) (List.mem_append_right _ List.mem_cons_self)
  exact hall (by decide) h

theorem exists_eq_of_length_eq_eight {cs : List Char} (h : cs.length = 8) :
    ∃ a b c d e f g i, cs = [a, b, c, d, e, f, g, i] := by
  match cs, h with
  | [a, b, c, d, e, f, g, i], _ => exact ⟨a, b, c, d, e, f, g, i, rfl⟩

theorem readDouble_escape (folded : Bool) {c : Char} {e : List Char} (h : escape? c = some e)
    (rest : List Char) :
    readDouble folded (e ++ rest) =
      (readDouble false rest).map fun (text, after) => (c :: text, after) := by
  have hvalid : c.toNat < 0xd800 ∨ 0xdfff < c.toNat ∧ c.toNat < 0x110000 := c.valid
  have hlength : ∀ width : Nat, 0 < width → c.toNat < 16 ^ width →
      ((Text.hexDigits width c.toNat).map Char.toUpper).length = width := by
    intro width hw hc
    rw [List.length_map, Text.length_hexDigits hw hc]
  unfold escape? at h
  dsimp only at h
  split at h
  · rename_i letter hletter
    obtain rfl := Option.some.inj h
    obtain ⟨hmeant, hnot⟩ := escape?_of_escapeLetter? hletter
    exact readDouble_letter hmeant hnot rest
  split at h
  · cases h
  split at h
  · rename_i hsmall
    have hdigits := hlength 2 (by decide) (by omega)
    have hnumber := Text.hexNumber?_upper 2 c.toNat
    obtain ⟨a, b, hab⟩ := List.length_eq_two.mp hdigits
    rw [hab] at hnumber h
    obtain rfl := Option.some.inj h
    simp only [List.cons_append, List.nil_append, readDouble, hnumber]
    rw [Option.bind_eq_bind, Option.bind_some, Char.ofNat_toNat]
  split at h
  · rename_i hbasic
    have hdigits := hlength 4 (by decide) (by omega)
    have hnumber := Text.hexNumber?_upper 4 c.toNat
    obtain ⟨a, b, d, e, hab⟩ := List.length_eq_four.mp hdigits
    rw [hab] at hnumber h
    obtain rfl := Option.some.inj h
    simp only [List.cons_append, List.nil_append, readDouble, hnumber]
    rw [Option.bind_eq_bind, Option.bind_some, Char.ofNat_toNat]
  · have hdigits := hlength 8 (by decide) (by omega)
    have hnumber := Text.hexNumber?_upper 8 c.toNat
    obtain ⟨a, b, d, e, f, g, i, j, hab⟩ := exists_eq_of_length_eq_eight hdigits
    rw [hab] at hnumber h
    obtain rfl := Option.some.inj h
    simp only [List.cons_append, List.nil_append, readDouble, hnumber]
    rw [Option.bind_eq_bind, Option.bind_some, Char.ofNat_toNat]

theorem readDouble_spaces (n : Nat) (rest : List Char) :
    readDouble true (List.replicate n ' ' ++ rest) = readDouble true rest := by
  induction n with
  | zero => rfl
  | succ n ih =>
    rw [List.replicate_succ, List.cons_append, readDouble, if_pos ⟨rfl, rfl⟩]
    · exact ih
    all_goals simp

/-- Whatever was escaped and folded, the text is read back, behind an escaped line feed too if it
begins with no space. -/
theorem Quoted.readDouble {text written : List Char} (h : Quoted text written) {folded : Bool}
    (hhead : folded = false ∨ text.head? ≠ some ' ') (rest : List Char) :
    readDouble folded (written ++ '"' :: rest) = some (text, rest) := by
  induction h generalizing folded with
  | nil => rw [List.nil_append, Yaml.readDouble]
  | plain hc _ ih =>
    have hspace := hhead.imp_right fun hne heq => hne (congrArg some heq)
    rw [List.cons_append, readDouble_plain hc hspace, ih (.inl rfl)]
    rfl
  | escape hc _ ih =>
    rw [List.append_assoc, readDouble_escape folded hc, ih (.inl rfl)]
    rfl
  | fold column htext _ ih =>
    rw [List.cons_append, List.cons_append, List.append_assoc, Yaml.readDouble, readDouble_spaces,
      ih (.inr htext)]
  | foldSpace column _ ih =>
    have hspace := ih (.inl rfl)
    rw [List.cons_append, readDouble_plain (by decide) (.inl rfl)] at hspace
    rw [List.cons_append, List.cons_append, List.append_assoc, Yaml.readDouble, readDouble_spaces,
      List.cons_append, List.cons_append, readDouble_letter rfl (by decide), hspace]

theorem Quoted.append_plain {text written waiting : List Char} (h : Quoted text written)
    (hw : ∀ c ∈ waiting, escape? c = none) : Quoted (waiting ++ text) (waiting ++ written) := by
  induction waiting with
  | nil => exact h
  | cons c waiting ih =>
    obtain ⟨hc, hw⟩ := List.forall_mem_cons.mp hw
    exact .plain hc (ih hw)

def foldDouble (indent : Nat) (written : List Char) (beforeSpace : Bool) (p : Pen) : Pen :=
  let p := { (p.put (written ++ ['\\'])).toIndent indent with afterSpace := false, indenting := false }
  if beforeSpace then p.put ['\\'] else p

theorem text_foldDouble (indent : Nat) (written : List Char) (beforeSpace : Bool) {p : Pen}
    (h : p.Ended) :
    (foldDouble indent written beforeSpace p).text = p.text ++ (written ++ '\\' :: '\n' ::
        (List.replicate indent ' ' ++ if beforeSpace then ['\\'] else [])) ∧
      (foldDouble indent written beforeSpace p).Ended ∧
      (foldDouble indent written beforeSpace p).column = indent + if beforeSpace then 1 else 0 := by
  have hp : (p.put (written ++ ['\\'])).indenting = false := h.indenting
  have hcolumn := (Pen.atColumn_toIndent hp indent).column
  have htext := Pen.text_toIndent (n := indent) (.inl hp)
  rw [Pen.text_put] at htext
  unfold foldDouble
  cases beforeSpace with
  | false =>
    refine ⟨?_, ⟨rfl, rfl⟩, hcolumn⟩
    exact htext.trans (by simp)
  | true =>
    refine ⟨?_, ⟨rfl, rfl⟩, congrArg (· + 1) hcolumn⟩
    rw [if_pos rfl, Pen.text_put]
    exact (congrArg (· ++ ['\\']) htext).trans (by simp)

section
variable (fold : Bool) (indent : Nat) (first : Bool) (waiting : List Char) {c : Char}
  (rest : List Char) (p : Pen)

theorem writeDoubleRest_escape {e : List Char} (h : escape? c = some e) :
    writeDoubleRest fold indent first waiting (c :: rest) p =
        writeDoubleRest fold indent false [] rest ((p.put waiting.reverse).put e) ∨
      writeDoubleRest fold indent first waiting (c :: rest) p =
        writeDoubleRest fold indent false [] rest (foldDouble indent [] (rest.headD 'x' == ' ')
          ((p.put waiting.reverse).put e)) := by
  rw [writeDoubleRest, h]
  dsimp only
  rw [beq_self_eq_true, if_pos rfl, if_pos rfl]
  split
  · exact .inr rfl
  · exact .inl rfl

theorem writeDoubleRest_plain (h : escape? c = none) :
    writeDoubleRest fold indent first waiting (c :: rest) p =
        writeDoubleRest fold indent false (c :: waiting) rest p ∨
      (waiting = [] → lineWidth < p.column) ∧
      writeDoubleRest fold indent first waiting (c :: rest) p =
        writeDoubleRest fold indent false [c] rest
          (foldDouble indent waiting.reverse (c == ' ') p) := by
  have hlength : ((c :: rest).length == rest.length) = false := by simp
  rw [writeDoubleRest, h]
  dsimp only
  rw [hlength, if_neg Bool.false_ne_true, if_neg Bool.false_ne_true]
  split
  · rename_i hfold
    simp only [Bool.and_eq_true, decide_eq_true_eq] at hfold
    refine .inr ⟨?_, rfl⟩
    rintro rfl
    exact hfold.2
  · exact .inl rfl

end

/-- A line may be broken anywhere, if a space that comes next is escaped. -/
theorem Quoted.folded {text written : List Char} (h : Quoted text written)
    (hspace : text.head? = some ' ' → ∃ after, written = ' ' :: after) (column : Nat) :
    Quoted text ('\\' :: '\n' :: (List.replicate column ' ' ++
      ((if text.headD 'x' == ' ' then ['\\'] else []) ++ written))) := by
  by_cases hhead : text.head? = some ' '
  · obtain ⟨after, rfl⟩ := hspace hhead
    obtain ⟨rest, rfl⟩ := List.head?_eq_some_iff.mp hhead
    exact .foldSpace column h
  · have hnot : (text.headD 'x' == ' ') = false := by
      rw [List.headD_eq_head?_getD, beq_eq_false_iff_ne]
      intro heq
      cases hfirst : text.head? with
      | none =>
        rw [hfirst] at heq
        exact absurd heq (by decide)
      | some c =>
        rw [hfirst] at heq hhead
        exact hhead (congrArg some heq)
    rw [hnot, if_neg Bool.false_ne_true, List.nil_append]
    exact .fold column hhead h

theorem exists_append_eq_cons {front text : List Char} {c : Char} (hne : front ≠ [])
    (h : (front ++ text).head? = some c) (written : List Char) :
    ∃ after, front ++ written = c :: after := by
  obtain ⟨d, front, rfl⟩ := List.exists_cons_of_ne_nil hne
  obtain rfl := Option.some.inj h
  exact ⟨_, rfl⟩

/-- From the one pen to the other the waiting characters and the text were written in double quotes.
A space that comes next is written as such, unless the line is too long already. -/
def WritesQuoted (waiting text : List Char) (p q : Pen) : Prop :=
  q.Ended ∧ ∃ written, q.text = p.text ++ written ∧ Quoted (waiting.reverse ++ text) written ∧
    ((waiting = [] → p.column ≤ lineWidth) → (waiting.reverse ++ text).head? = some ' ' →
      ∃ after, written = ' ' :: after)

namespace WritesQuoted
variable {waiting rest : List Char} {c : Char} {p q : Pen}

theorem waiting_only (hwaiting : ∀ c ∈ waiting, escape? c = none) (hp : p.Ended) :
    WritesQuoted waiting [] p (p.put waiting.reverse) := by
  have hplain : ∀ c ∈ waiting.reverse, escape? c = none := fun c hc =>
    hwaiting c (List.mem_reverse.mp hc)
  refine ⟨hp.put _, waiting.reverse, Pen.text_put p _, ?_, fun _ hhead => ?_⟩
  · have hquoted := Quoted.nil.append_plain hplain
    rwa [List.append_nil] at hquoted ⊢
  · rw [List.append_nil] at hhead
    exact List.head?_eq_some_iff.mp hhead

/-- Behind characters that are written first, the next one is the first of them. -/
theorem of_ne_nil (hq : q.Ended) {written : List Char}
    (htext : q.text = p.text ++ (waiting.reverse ++ written))
    (hquoted : Quoted (waiting.reverse ++ rest) (waiting.reverse ++ written))
    (hne : (waiting.reverse ++ rest).head? = some ' ' → (waiting = [] → p.column ≤ lineWidth) →
      waiting ≠ []) :
    WritesQuoted waiting rest p q := by
  refine ⟨hq, _, htext, hquoted, fun hcolumn hhead => ?_⟩
  exact exists_append_eq_cons (mt List.reverse_eq_nil_iff.mp (hne hhead hcolumn)) hhead written

theorem escape {e : List Char} (hwaiting : ∀ c ∈ waiting, escape? c = none)
    (hc : escape? c = some e) (h : WritesQuoted [] rest ((p.put waiting.reverse).put e) q) :
    WritesQuoted waiting (c :: rest) p q := by
  have hplain : ∀ c ∈ waiting.reverse, escape? c = none := fun c hc =>
    hwaiting c (List.mem_reverse.mp hc)
  obtain ⟨hended, written, htext, hquoted, -⟩ := h
  rw [Pen.text_put, Pen.text_put, List.append_assoc, List.append_assoc] at htext
  refine of_ne_nil hended htext ((Quoted.escape hc hquoted).append_plain hplain) ?_
  rintro hhead - rfl
  obtain rfl := Option.some.inj hhead
  cases hc

theorem escape_folded {e : List Char} {indent : Nat} (hindent : indent < lineWidth ∨ ' ' ∉ rest)
    (hwaiting : ∀ c ∈ waiting, escape? c = none) (hc : escape? c = some e) (hp : p.Ended)
    (h : WritesQuoted [] rest
      (foldDouble indent [] (rest.headD 'x' == ' ') ((p.put waiting.reverse).put e)) q) :
    WritesQuoted waiting (c :: rest) p q := by
  have hplain : ∀ c ∈ waiting.reverse, escape? c = none := fun c hc =>
    hwaiting c (List.mem_reverse.mp hc)
  obtain ⟨hfolded, -, hcolumn⟩ := text_foldDouble indent [] (rest.headD 'x' == ' ')
    ((hp.put waiting.reverse).put e)
  obtain ⟨hended, written, htext, hquoted, hspace⟩ := h
  have hnext : rest.head? = some ' ' → ∃ after, written = ' ' :: after := by
    intro hhead
    refine hspace (fun _ => ?_) hhead
    have hmem : ' ' ∈ rest := List.mem_of_head? hhead
    have hroom := hindent.resolve_right (not_not_intro hmem)
    rw [hcolumn]
    split <;> omega
  rw [hfolded, Pen.text_put, Pen.text_put] at htext
  simp only [List.append_assoc, List.cons_append, List.nil_append] at htext
  refine of_ne_nil hended htext
    ((Quoted.escape hc (hquoted.folded hnext indent)).append_plain hplain) ?_
  rintro hhead - rfl
  obtain rfl := Option.some.inj hhead
  cases hc

theorem keep (h : WritesQuoted (c :: waiting) rest p q) : WritesQuoted waiting (c :: rest) p q := by
  obtain ⟨hended, written, htext, hquoted, hspace⟩ := h
  rw [List.reverse_cons, List.append_assoc, List.singleton_append] at hquoted hspace
  exact ⟨hended, written, htext, hquoted, fun _ => hspace (by simp)⟩

theorem keep_folded {indent : Nat} (hwaiting : ∀ c ∈ waiting, escape? c = none)
    (hwide : waiting = [] → lineWidth < p.column) (hp : p.Ended)
    (h : WritesQuoted [c] rest (foldDouble indent waiting.reverse (c == ' ') p) q) :
    WritesQuoted waiting (c :: rest) p q := by
  have hplain : ∀ c ∈ waiting.reverse, escape? c = none := fun c hc =>
    hwaiting c (List.mem_reverse.mp hc)
  obtain ⟨hfolded, -, -⟩ := text_foldDouble indent waiting.reverse (c == ' ') hp
  obtain ⟨hended, written, htext, hquoted, hspace⟩ := h
  rw [hfolded] at htext
  simp only [List.append_assoc, List.cons_append] at htext
  refine of_ne_nil hended htext ((hquoted.folded (hspace (by simp)) indent).append_plain hplain) ?_
  intro _ hcolumn hnil
  exact absurd (hwide hnil) (Nat.not_lt.mpr (hcolumn hnil))

end WritesQuoted

/-- Wherever the lines are broken, what is written is the waiting characters and the text in double
quotes. -/
theorem writesQuoted_writeDoubleRest (fold : Bool) {indent : Nat} {text : List Char}
    (hfit : indent < lineWidth ∨ ' ' ∉ text) (first : Bool) (waiting : List Char)
    (hwaiting : ∀ c ∈ waiting, escape? c = none) {p : Pen} (hp : p.Ended) :
    WritesQuoted waiting text p (writeDoubleRest fold indent first waiting text p) := by
  -- Each step moves a character to those that wait, or writes these out.
  induction text generalizing first waiting p with
  | nil => exact .waiting_only hwaiting hp
  | cons c rest ih =>
    rw [List.mem_cons, not_or] at hfit
    have hrest : indent < lineWidth ∨ ' ' ∉ rest := hfit.imp_right And.right
    cases hc : escape? c with
    | some e =>
      have hq : ((p.put waiting.reverse).put e).Ended := (hp.put _).put _
      rcases writeDoubleRest_escape fold indent first waiting rest p hc with heq | heq
      · rw [heq]
        exact .escape hwaiting hc (ih hrest false [] (by simp) hq)
      · have hafter := (text_foldDouble indent [] (rest.headD 'x' == ' ') hq).2.1
        rw [heq]
        exact .escape_folded hrest hwaiting hc hp (ih hrest false [] (by simp) hafter)
    | none =>
      rcases writeDoubleRest_plain fold indent first waiting rest p hc with heq | ⟨hwide, heq⟩
      · rw [heq]
        exact .keep (ih hrest false _ (List.forall_mem_cons.mpr ⟨hc, hwaiting⟩) hp)
      · have hafter := (text_foldDouble indent waiting.reverse (c == ' ') hp).2.1
        rw [heq]
        exact .keep_folded hwaiting hwide hp (ih hrest false [c] (by simpa using hc) hafter)

theorem exists_writeDouble (fold : Bool) {indent : Nat} {s : String}
    (hfit : indent < lineWidth ∨ ' ' ∉ s.toList) (p : Pen) :
    ∃ written, (∀ column, Writes column (.string s) written) ∧
      (writeDouble fold indent s.toList p).text = p.text ++ (p.gap ++ written) ∧
      (writeDouble fold indent s.toList p).Ended := by
  obtain ⟨-, written, htext, hquoted, -⟩ := writesQuoted_writeDoubleRest fold hfit true []
    (by simp) (p.ended_spaced ['"'])
  refine ⟨'"' :: (written ++ ['"']), fun column => ⟨fun rest _ => ?_, ?_⟩, ?_,
    Pen.ended_closeMark _ _⟩
  · rw [List.cons_append, List.append_assoc, List.singleton_append, readScalar,
      hquoted.readDouble (.inl rfl)]
    exact congrArg (fun s => some (Document.string s, rest)) String.ofList_toList
  · exact ⟨'"', _, rfl, by decide, by decide, by decide, by decide, fun hc => absurd hc (by decide)⟩
  · rw [writeDouble, Pen.text_closeMark, htext, Pen.text_spaced]
    simp

/-- A string is written without quotes or with them. -/
theorem writeString_cases (fold : Bool) (indent : Nat) (s : String) (p : Pen) :
    (Plainly s.toList ∧ s.toList ≠ [] ∧ resolve s.toList = some (.string s) ∧
        writeString fold indent s p = writePlain fold indent s.toList p) ∨
      (allowsSingle s.toList = true ∧
        writeString fold indent s p = writeSingle fold indent s.toList p) ∨
      writeString fold indent s p = writeDouble fold indent s.toList p := by
  unfold writeString
  dsimp only
  split
  · rename_i hplain
    rw [Bool.and_eq_true, beq_iff_eq] at hplain
    obtain ⟨hne, hresolve⟩ := resolve_of_typeOf hplain.2
    exact .inl ⟨plainly_of_allowsPlain hplain.1, hne, hresolve, rfl⟩
  split
  · rename_i hsingle
    exact .inr (.inl ⟨hsingle, rfl⟩)
  · exact .inr (.inr rfl)

/-- A string reads back however it is written. Beyond the line width it may have no spaces. -/
theorem exists_writeString (fold : Bool) (column : Nat) {s : String}
    (hfit : column < lineWidth ∨ ' ' ∉ s.toList) (p : Pen) :
    ∃ written, Writes column (.string s) written ∧
      (writeString fold column s p).text = p.text ++ (p.gap ++ written) ∧
      (writeString fold column s p).Ended := by
  rcases writeString_cases fold column s p with
    ⟨hplain, hne, hresolve, heq⟩ | ⟨hsingle, heq⟩ | heq
  · obtain ⟨written, hfolds, hwritten⟩ := exists_writePlain fold column hplain p
    exact ⟨written, hplain.writes hne hresolve hfolds, by rwa [heq]⟩
  · obtain ⟨written, hwrites, hwritten⟩ :=
      exists_writeSingle fold hsingle (hfit.imp_left Nat.le_of_lt) p
    exact ⟨written, hwrites column, by rwa [heq]⟩
  · obtain ⟨written, hwrites, hwritten⟩ := exists_writeDouble fold hfit p
    exact ⟨written, hwrites column, by rwa [heq]⟩

/-- What is not folded reads back at every column. -/
theorem exists_writeString_unfolded {indent : Nat} {s : String}
    (hfit : indent < lineWidth ∨ ' ' ∉ s.toList) (p : Pen) :
    ∃ written, (∀ column, Writes column (.string s) written) ∧
      (writeString false indent s p).text = p.text ++ (p.gap ++ written) ∧
      (writeString false indent s p).Ended := by
  rcases writeString_cases false indent s p with
    ⟨hplain, hne, hresolve, heq⟩ | ⟨hsingle, heq⟩ | heq
  · exact ⟨s.toList, fun column => hplain.writes hne hresolve (.self column _),
      by rw [heq]; exact text_writePlain indent _ p⟩
  · rw [heq]
    exact exists_writeSingle false hsingle (hfit.imp_left Nat.le_of_lt) p
  · rw [heq]
    exact exists_writeDouble false hfit p

end TypeAnnotation.Document.Yaml
