import Mathlib.Data.List.SplitBy
import TypeAnnotation.Document.Yaml
import TypeAnnotation.Proofs.HexDigits
import TypeAnnotation.Yaml.Token.Scalar

/-! # Reading YAML scalars

A reader of scalars without quotes, in single quotes and in double quotes, the places where the pen
can be, and what is written without quotes: wherever its lines were folded, it is read back.
-/
namespace TypeAnnotation.Document.Yaml

open TypeAnnotation.Yaml (isBreak isGapOrEnd)
open TypeAnnotation.Yaml.Plain (trueWords)

/-! ## The reader -/

/-- The line behind a line feed, if it stands at the column and is not empty. -/
def nextLine? (column : Nat) : List Char → Option (List Char)
  | '\n' :: rest =>
    match rest.drop column with
    | c :: line =>
      if rest.take column = List.replicate column ' ' ∧ c ≠ ' ' ∧ c ≠ '\n' then some (c :: line)
      else none
    | [] => none
  | _ => none

/-- A text without quotes and what stands behind it, after skipping some characters. It goes on
behind a line feed if the next line stands at the column. -/
def readPlain (column skip : Nat) : List Char → List Char × List Char
  | [] => ([], [])
  | c :: rest =>
    if skip ≠ 0 then readPlain column (skip - 1) rest
    else if c = '\n' then
      if (nextLine? column (c :: rest)).isSome then
        let (text, after) := readPlain column column rest
        (' ' :: text, after)
      else ([], c :: rest)
    else if c = ':' ∧ isGapOrEnd (rest.headD ' ') then ([], c :: rest)
    else
      let (text, after) := readPlain column 0 rest
      (c :: text, after)

/-- What line feeds in quotes stand for: one for a space, more for one less. -/
def foldBreaks : Nat → List Char
  | 0 => []
  | 1 => [' ']
  | n + 1 => List.replicate n '\n'

/-- A text in single quotes up to the closing one, and what stands behind it, after so many line
feeds. The spaces behind line feeds are left out. -/
def readSingle (breaks : Nat) : List Char → Option (List Char × List Char)
  | [] => none
  | '\n' :: rest => readSingle (breaks + 1) rest
  | '\x27' :: '\x27' :: rest =>
    (readSingle 0 rest).map fun (text, after) => (foldBreaks breaks ++ '\x27' :: text, after)
  | '\x27' :: rest => some (foldBreaks breaks, rest)
  | c :: rest =>
    if c = ' ' ∧ breaks ≠ 0 then readSingle breaks rest
    else (readSingle 0 rest).map fun (text, after) => (foldBreaks breaks ++ c :: text, after)

/-- A text in double quotes up to the closing one, and what stands behind it. The spaces behind an
escaped line feed are left out. -/
def readDouble (folded : Bool) : List Char → Option (List Char × List Char)
  | [] => none
  | '"' :: rest => some ([], rest)
  | '\\' :: '\n' :: rest => readDouble true rest
  | '\\' :: 'x' :: a :: b :: rest => do
    let code ← Text.hexNumber? [a, b]
    (readDouble false rest).map fun (text, after) => (Char.ofNat code :: text, after)
  | '\\' :: 'u' :: a :: b :: c :: d :: rest => do
    let code ← Text.hexNumber? [a, b, c, d]
    (readDouble false rest).map fun (text, after) => (Char.ofNat code :: text, after)
  | '\\' :: 'U' :: a :: b :: c :: d :: e :: f :: g :: h :: rest => do
    let code ← Text.hexNumber? [a, b, c, d, e, f, g, h]
    (readDouble false rest).map fun (text, after) => (Char.ofNat code :: text, after)
  | '\\' :: letter :: rest => do
    let meant ← TypeAnnotation.Yaml.Read.escape? letter
    (readDouble false rest).map fun (text, after) => (meant :: text, after)
  | c :: rest =>
    if c = ' ' ∧ folded then readDouble true rest
    else (readDouble false rest).map fun (text, after) => (c :: text, after)

/-- What a text without quotes stands for. Numbers and times are in no document. -/
def resolve (text : List Char) : Option Document :=
  match TypeAnnotation.Yaml.Plain.typeOf (String.ofList text) with
  | .null => some .null
  | .bool => some <| .bool <| trueWords.contains <| String.ofList text
  | .str => some (.string (String.ofList text))
  | _ => none

def readScalar (column : Nat) : List Char → Option (Document × List Char)
  | '"' :: rest =>
    (readDouble false rest).map fun (text, after) => (.string (String.ofList text), after)
  | '\x27' :: rest =>
    (readSingle 0 rest).map fun (text, after) => (.string (String.ofList text), after)
  | text =>
    let (text, after) := readPlain column 0 text
    (resolve text).map (·, after)

/-! ## The pen -/

namespace Pen
variable {p : Pen} {n : Nat}

def text (p : Pen) : List Char := p.reversed.reverse

/-- Behind a text. What comes on a line of its own begins with a line feed. -/
structure Ended (p : Pen) : Prop where
  afterSpace : p.afterSpace = false
  indenting : p.indenting = false

/-- Behind a mark that stands at a column. -/
structure AtMark (n : Nat) (p : Pen) : Prop where
  column : p.column = n + 1
  afterSpace : p.afterSpace = false
  indenting : p.indenting = true

structure AtColumn (n : Nat) (p : Pen) : Prop where
  column : p.column = n
  afterSpace : p.afterSpace = true
  indenting : p.indenting = true

def gap (p : Pen) : List Char := if p.afterSpace then [] else [' ']

theorem text_put (p : Pen) (cs : List Char) : (p.put cs).text = p.text ++ cs := by
  simp [text, put]

theorem text_breakLine (p : Pen) (c : Char) : (p.breakLine c).text = p.text ++ [c] := by
  simp [text, breakLine]

theorem text_spaced (p : Pen) (cs : List Char) : (p.spaced cs).text = p.text ++ (p.gap ++ cs) := by
  unfold spaced gap
  cases p.afterSpace <;> exact text_put p _

theorem ended_spaced (p : Pen) (cs : List Char) : (p.spaced cs).Ended := ⟨rfl, rfl⟩

theorem text_closeMark (p : Pen) (c : Char) : (p.closeMark c).text = p.text ++ [c] := text_put p [c]

theorem ended_closeMark (p : Pen) (c : Char) : (p.closeMark c).Ended := ⟨rfl, rfl⟩

theorem Ended.put (h : p.Ended) (cs : List Char) : (p.put cs).Ended := ⟨h.afterSpace, h.indenting⟩

/-- Going to a column behind a text, or behind that column, begins a line. -/
theorem text_toIndent (h : p.indenting = false ∨ n < p.column) :
    (p.toIndent n).text = p.text ++ '\n' :: List.replicate n ' ' := by
  have hgo : (!p.indenting || decide (n < p.column) || (p.column == n && !p.afterSpace)) = true := by
    rcases h with h | h <;> simp [h]
  have hbreak : (p.breakLine '\n').column = 0 := rfl
  cases n with
  | zero => simp [toIndent, hgo, hbreak, text_breakLine]
  | succ n =>
    have htext := text_put (p.breakLine '\n') (List.replicate (n + 1) ' ')
    rw [text_breakLine, List.append_assoc] at htext
    simp only [toIndent, hgo, hbreak, if_true, Nat.zero_lt_succ, Nat.sub_zero]
    exact htext

theorem atColumn_toIndent (h : p.indenting = false) (n : Nat) : (p.toIndent n).AtColumn n := by
  have hbreak : (p.breakLine '\n').column = 0 := rfl
  cases n with
  | zero =>
    simp only [toIndent, h, hbreak, Bool.not_false, Bool.true_or, if_true, Nat.lt_irrefl, if_false]
    exact ⟨rfl, rfl, rfl⟩
  | succ n =>
    simp only [toIndent, h, hbreak, Bool.not_false, Bool.true_or, if_true, Nat.zero_lt_succ,
      Nat.sub_zero]
    refine ⟨?_, rfl, rfl⟩
    simp [put, hbreak]

/-- Behind a mark, the next column but one is reached on the same line. -/
theorem AtMark.toIndent (h : p.AtMark n) :
    (p.toIndent (n + 2)).text = p.text ++ [' '] ∧ (p.toIndent (n + 2)).AtColumn (n + 2) := by
  have hpad : n + 2 - (n + 1) = 1 := by omega
  have hgo : p.toIndent (n + 2) = { p.put [' '] with afterSpace := true } := by
    simp [Pen.toIndent, h.column, h.indenting, hpad]
  rw [hgo]
  exact ⟨text_put p [' '], by simp [put, h.column], rfl, h.indenting⟩

/-- Behind line feeds only spaces are missing. -/
theorem AtColumn.text_toIndent (h : p.AtColumn 0) (n : Nat) :
    (p.toIndent n).text = p.text ++ List.replicate n ' ' := by
  cases n with
  | zero => simp [Pen.toIndent, h.column, h.afterSpace, h.indenting]
  | succ n =>
    have hgo : p.toIndent (n + 1) =
        { p.put (List.replicate (n + 1) ' ') with afterSpace := true } := by
      simp [Pen.toIndent, h.column, h.indenting]
    rw [hgo]
    exact text_put p _

theorem AtColumn.toIndent (h : p.AtColumn n) : p.toIndent n = p := by
  simp [Pen.toIndent, h.column, h.afterSpace, h.indenting]

theorem AtColumn.indentMark (h : p.AtColumn n) (c : Char) :
    (p.indentMark c).text = p.text ++ [c] ∧ (p.indentMark c).AtMark n := by
  have htext := text_spaced p [c]
  rw [gap, h.afterSpace] at htext
  refine ⟨htext, ?_, rfl, h.indenting⟩
  simp [Pen.indentMark, spaced, put, h.column, h.afterSpace]

theorem text_breakLines (k : Nat) (q : Pen) (h : q.AtColumn 0) :
    ((List.replicate k '\n').foldl breakLine q).text = q.text ++ List.replicate k '\n' ∧
      ((List.replicate k '\n').foldl breakLine q).AtColumn 0 := by
  induction k generalizing q with
  | zero => exact ⟨(List.append_nil _).symm, h⟩
  | succ k ih =>
    obtain ⟨htext, hcolumn⟩ := ih (q.breakLine '\n') ⟨rfl, rfl, rfl⟩
    rw [List.replicate_succ, List.foldl_cons, htext, text_breakLine, List.append_assoc]
    exact ⟨rfl, hcolumn⟩

end Pen

/-! ## Runs -/

structure ClassRuns {β : Type} (classOf : Char → β) (runs : List (List Char)) : Prop where
  nonempty : ∀ run ∈ runs, run ≠ []
  uniform : ∀ run ∈ runs, ∀ c ∈ run, ∀ d ∈ run, classOf c = classOf d
  differ : runs.IsChain fun run next => ∀ c ∈ run, ∀ d ∈ next, classOf c ≠ classOf d

theorem ClassRuns.tail {β : Type} {classOf : Char → β} {run : List Char} {runs : List (List Char)}
    (h : ClassRuns classOf (run :: runs)) : ClassRuns classOf runs :=
  ⟨fun r hr => h.nonempty r (List.mem_cons_of_mem _ hr),
    fun r hr => h.uniform r (List.mem_cons_of_mem _ hr), h.differ.tail⟩

/-- Characters that are next to one another in one class are all in one. -/
theorem eq_of_isChain {β : Type} {classOf : Char → β} {run : List Char}
    (h : run.IsChain fun c d => classOf c = classOf d) :
    ∀ c ∈ run, ∀ d ∈ run, classOf c = classOf d := by
  cases run with
  | nil => simp
  | cons first rest =>
    have hpairs : (first :: rest).Pairwise fun c d => classOf c = classOf d := h.pairwise
    have hfirst : ∀ c ∈ first :: rest, classOf first = classOf c :=
      List.forall_mem_cons.mpr ⟨rfl, (List.pairwise_cons.mp hpairs).1⟩
    intro c hc d hd
    exact (hfirst c hc).symm.trans (hfirst d hd)

theorem classRuns_splitBy {β : Type} [DecidableEq β] (classOf : Char → β) (text : List Char) :
    ClassRuns classOf (text.splitBy fun c d => classOf c == classOf d) := by
  have huniform : ∀ run ∈ text.splitBy fun c d => classOf c == classOf d,
      ∀ c ∈ run, ∀ d ∈ run, classOf c = classOf d :=
    fun run hrun =>
      eq_of_isChain ((List.isChain_of_mem_splitBy hrun).imp fun _ _ h => beq_iff_eq.mp h)
  refine ⟨fun run hrun => List.ne_nil_of_mem_splitBy hrun, huniform, ?_⟩
  refine (List.isChain_getLast_head_splitBy _ text).imp_of_mem_imp ?_
  rintro run next hrun hnext ⟨hr, hn, hborder⟩ c hc d hd heq
  have hlast := huniform run hrun _ (List.getLast_mem hr) c hc
  have hhead := huniform next hnext d hd _ (List.head_mem hn)
  exact absurd ((hlast.trans heq).trans hhead) (by simpa using hborder)

/-! ## Without quotes -/

def EndsScalar (column : Nat) (rest : List Char) : Prop :=
  (∃ after, rest = ':' :: after ∧ isGapOrEnd (after.headD ' ') = true) ∨
    (rest = [] ∨ rest.head? = some '\n') ∧ nextLine? column rest = none

/-- A text as it is written if some single spaces become line feeds with spaces up to a column. -/
inductive Folds (column : Nat) : List Char → List Char → Prop
  | nil : Folds column [] []
  | keep {text written : List Char} (c : Char) :
      Folds column text written → Folds column (c :: text) (c :: written)
  | fold {text written : List Char} {c : Char} (hc : c ≠ ' ') :
      Folds column (c :: text) written →
      Folds column (' ' :: c :: text) ('\n' :: (List.replicate column ' ' ++ written))

namespace Folds
variable {column : Nat} {text written : List Char}

theorem keepAll (h : Folds column text written) (run : List Char) :
    Folds column (run ++ text) (run ++ written) := by
  induction run with
  | nil => exact h
  | cons c run ih => exact .keep c ih

theorem self (column : Nat) (text : List Char) : Folds column text text := by
  have h := keepAll (.nil : Folds column [] []) text
  rwa [List.append_nil] at h

/-- Only spaces are folded. -/
theorem begins {c : Char} (h : Folds column (c :: text) written) (hc : c ≠ ' ') :
    ∃ after, written = c :: after ∧ Folds column text after := by
  cases h with
  | keep c h => exact ⟨_, rfl, h⟩
  | fold _ _ => exact absurd rfl hc

end Folds

theorem nextLine?_eq_some (column : Nat) {c : Char} (hspace : c ≠ ' ') (hbreak : c ≠ '\n')
    (rest : List Char) :
    nextLine? column ('\n' :: (List.replicate column ' ' ++ c :: rest)) = some (c :: rest) := by
  have hdrop : (List.replicate column ' ' ++ c :: rest).drop column = c :: rest :=
    List.drop_left' List.length_replicate
  have htake : (List.replicate column ' ' ++ c :: rest).take column = List.replicate column ' ' :=
    List.take_left' List.length_replicate
  simp only [nextLine?, hdrop, htake, hspace, hbreak, ne_eq, not_false_eq_true, and_self, if_true]

theorem readPlain_skip (column n : Nat) (rest : List Char) :
    readPlain column n (List.replicate n ' ' ++ rest) = readPlain column 0 rest := by
  induction n with
  | zero => rfl
  | succ n ih =>
    rw [List.replicate_succ, List.cons_append, readPlain, if_pos (Nat.succ_ne_zero n)]
    exact ih

theorem EndsScalar.readPlain {column : Nat} {rest : List Char} (h : EndsScalar column rest) :
    readPlain column 0 rest = ([], rest) := by
  rcases h with ⟨after, rfl, hafter⟩ | ⟨rfl | hhead, hline⟩
  · rw [Yaml.readPlain, if_neg (by decide), if_neg (by decide), if_pos ⟨rfl, hafter⟩]
  · rfl
  · obtain ⟨after, rfl⟩ := List.head?_eq_some_iff.mp hhead
    rw [Yaml.readPlain, if_neg (by decide), if_pos rfl, hline]
    rfl

/-- A text without line feeds, in which no colon has a gap behind it, is read as it was before it was
folded. -/
theorem Folds.readPlain {column : Nat} {text written : List Char} (h : Folds column text written)
    (hbreak : '\n' ∉ text)
    (hcolon : (text ++ [' ']).IsChain fun c d => c = ':' → isGapOrEnd d = false)
    {rest : List Char} (hrest : EndsScalar column rest) :
    readPlain column 0 (written ++ rest) = (text, rest) := by
  induction h with
  | nil => exact hrest.readPlain
  | @keep text written c h ih =>
    rw [List.mem_cons, not_or] at hbreak
    rw [List.cons_append, List.isChain_cons] at hcolon
    have hplain : ¬ (c = ':' ∧ isGapOrEnd ((written ++ rest).headD ' ') = true) := by
      rintro ⟨rfl, hgap⟩
      cases text with
      | nil => exact absurd (hcolon.1 ' ' rfl rfl) (by decide)
      | cons d text =>
        have hd : isGapOrEnd d = false := hcolon.1 d rfl rfl
        have hspace : d ≠ ' ' := by
          rintro rfl
          exact absurd hd (by decide)
        obtain ⟨after, rfl, -⟩ := h.begins hspace
        rw [List.cons_append, List.headD_cons, hd] at hgap
        cases hgap
    rw [List.cons_append, Yaml.readPlain, if_neg (by decide), if_neg (Ne.symm hbreak.1),
      if_neg hplain, ih hbreak.2 hcolon.2]
  | @fold text written c hc h ih =>
    rw [List.mem_cons, not_or] at hbreak
    rw [List.cons_append, List.isChain_cons] at hcolon
    obtain ⟨after, rfl, -⟩ := h.begins hc
    have hc' : c ≠ '\n' := fun heq => hbreak.2 (heq ▸ List.mem_cons_self)
    have hline := nextLine?_eq_some column hc hc' (after ++ rest)
    have hread := ih hbreak.2 hcolon.2
    rw [List.cons_append, List.append_assoc, List.cons_append, Yaml.readPlain, if_neg (by decide),
      if_pos rfl, hline, readPlain_skip, ← List.cons_append, hread]
    rfl

def foldRun (fold : Bool) (indent : Nat) (p : Pen) (run : List Char) : Pen :=
  if run == [' '] && lineWidth < p.column && fold then
    { p.toIndent indent with afterSpace := false, indenting := false }
  else p.put run

theorem exists_folds (fold : Bool) (indent : Nat) {runs : List (List Char)}
    (h : ClassRuns isSpace runs) (hlast : ∀ c ∈ runs.flatten.getLast?, c ≠ ' ') {p : Pen}
    (hp : p.Ended) :
    ∃ written, Folds indent runs.flatten written ∧
      (runs.foldl (foldRun fold indent) p).text = p.text ++ written ∧
      (runs.foldl (foldRun fold indent) p).Ended := by
  induction runs generalizing p with
  | nil => exact ⟨[], .nil, (List.append_nil _).symm, hp⟩
  | cons run runs ih =>
    rw [List.foldl_cons, foldRun]
    split
    · rename_i hfold
      simp only [Bool.and_eq_true, beq_iff_eq] at hfold
      obtain ⟨⟨rfl, -⟩, -⟩ := hfold
      cases runs with
      | nil => exact absurd rfl (hlast ' ' rfl)
      | cons next runs =>
        obtain ⟨c, cs, rfl⟩ := List.exists_cons_of_ne_nil (h.nonempty next (by simp))
        have hc : c ≠ ' ' := by
          rintro rfl
          exact (List.isChain_cons_cons.mp h.differ).1 ' ' (by simp) ' ' (by simp) rfl
        have htext := Pen.text_toIndent (n := indent) (.inl hp.indenting)
        obtain ⟨written, hwritten, hshown, hended⟩ := ih h.tail (by simpa using hlast)
          (p := { p.toIndent indent with afterSpace := false, indenting := false }) ⟨rfl, rfl⟩
        refine ⟨_, .fold hc hwritten, ?_, hended⟩
        rw [hshown]
        have hsame : Pen.text { p.toIndent indent with afterSpace := false, indenting := false } =
          (p.toIndent indent).text := rfl
        rw [hsame, htext, List.append_assoc]
        rfl
    · have hrest : ∀ c ∈ runs.flatten.getLast?, c ≠ ' ' := by
        intro c hc
        apply hlast c
        rw [List.flatten_cons, List.getLast?_append, hc]
        rfl
      obtain ⟨written, hwritten, hshown, hended⟩ := ih h.tail hrest (hp.put run)
      refine ⟨run ++ written, hwritten.keepAll run, ?_, hended⟩
      rw [hshown, Pen.text_put, List.append_assoc]

structure Writes (column : Nat) (d : Document) (written : List Char) : Prop where
  reads : ∀ rest, EndsScalar column rest → readScalar column (written ++ rest) = some (d, rest)
  begins : ∃ c after, written = c :: after ∧ c ≠ ' ' ∧ c ≠ '\n' ∧ c ≠ '[' ∧ c ≠ '\x7b' ∧
    ((c = '-' ∨ c = '?') → isGapOrEnd (after.headD ' ') = false)

/-- Two classes stand nowhere next to each other. -/
theorem isChain_of_hasPair {p q : Char → Bool} {cs : List Char} (h : hasPair p q cs = false) :
    cs.IsChain fun c d => p c = true → q d = false := by
  induction cs with
  | nil => exact .nil
  | cons c cs ih =>
    cases cs with
    | nil => exact .singleton c
    | cons d cs =>
      rw [hasPair, Bool.or_eq_false_iff, Bool.and_eq_false_iff] at h
      refine .cons_cons ?_ (ih h.2)
      intro hc
      rcases h.1 with hp | hq
      · rw [hp] at hc
        cases hc
      · exact hq

structure Plainly (text : List Char) : Prop where
  nobreak : '\n' ∉ text
  colons : (text ++ [' ']).IsChain fun c d => c = ':' → isGapOrEnd d = false
  last : ∀ c ∈ text.getLast?, c ≠ ' '
  begins : ∀ c after, text = c :: after → c ≠ ' ' ∧ c ≠ '\n' ∧ c ≠ '[' ∧ c ≠ '\x7b' ∧ c ≠ '"' ∧
    c ≠ '\x27' ∧ ((c = '-' ∨ c = '?') → isGapOrEnd (after.headD ' ') = false)

theorem plainly_of_allowsPlain {text : List Char} (h : allowsPlain text = true) : Plainly text := by
  simp only [allowsPlain, Bool.and_eq_true, Bool.not_eq_true'] at h
  obtain ⟨⟨⟨⟨-, hbreak⟩, hindicator⟩, hhead⟩, hlast⟩ := h
  simp only [hasIndicator, Bool.or_eq_false_iff] at hindicator
  obtain ⟨⟨⟨⟨hfirst, -⟩, -⟩, hcolons⟩, -⟩ := hindicator
  have hnobreak : '\n' ∉ text := by
    intro hmem
    have hany : text.any isBreak = true := List.any_eq_true.mpr ⟨'\n', hmem, by decide⟩
    rw [hany] at hbreak
    cases hbreak
  have hbegins : ∀ c after, text = c :: after →
      "#,[]&*!|>'\"%@\x7b\x7d\x60".toList.contains c = false ∧
        ((c = '?' ∨ c = ':' ∨ c = '-') → isGapOrEnd (after.headD ' ') = false) := by
    rintro c after rfl
    simp only [Bool.or_eq_false_iff, Bool.and_eq_false_iff] at hfirst
    refine ⟨hfirst.1, fun hc => hfirst.2.resolve_left ?_⟩
    rcases hc with rfl | rfl | rfl <;> decide
  refine ⟨hnobreak, ?colons, ?last, ?begins⟩
  case colons =>
    cases text with
    | nil => exact .singleton ' '
    | cons c after =>
      refine List.isChain_cons.mpr ⟨?_, ?_⟩
      · rintro d hd rfl
        have hgap := (hbegins ':' after rfl).2 (.inr (.inl rfl))
        cases after with
        | nil => exact absurd hgap (by decide)
        | cons e after =>
          obtain rfl := Option.some.inj hd
          exact hgap
      · refine (isChain_of_hasPair hcolons).imp ?_
        rintro c d hcd rfl
        exact hcd rfl
  case last =>
    rintro c hc rfl
    rw [List.getLastD_eq_getLast?, hc] at hlast
    exact absurd hlast (by decide)
  case begins =>
    rintro c after rfl
    obtain ⟨hmark, hgap⟩ := hbegins c after rfl
    have hnot : ∀ mark, "#,[]&*!|>'\"%@\x7b\x7d\x60".toList.contains mark = true → c ≠ mark := by
      rintro mark hindicator rfl
      rw [hindicator] at hmark
      cases hmark
    refine ⟨?_, fun heq => hnobreak (heq ▸ List.mem_cons_self), hnot '[' (by decide),
      hnot '\x7b' (by decide), hnot '"' (by decide), hnot '\x27' (by decide), ?_⟩
    · rintro rfl
      exact absurd hhead (by simp [isSpace])
    · rintro (rfl | rfl)
      · exact hgap (.inr (.inr rfl))
      · exact hgap (.inl rfl)

/-- A text without quotes is read as what it stands for. -/
theorem Plainly.readScalar {column : Nat} {text written : List Char} {d : Document}
    (h : Plainly text) (hne : text ≠ []) (hd : resolve text = some d)
    (hw : Folds column text written) {rest : List Char} (hrest : EndsScalar column rest) :
    readScalar column (written ++ rest) = some (d, rest) := by
  obtain ⟨c, after, rfl⟩ := List.exists_cons_of_ne_nil hne
  obtain ⟨hspace, -, -, -, hdouble, hsingle, -⟩ := h.begins c after rfl
  have hread := hw.readPlain h.nobreak h.colons hrest
  obtain ⟨tail, rfl, -⟩ := hw.begins hspace
  rw [List.cons_append] at hread ⊢
  rw [Yaml.readScalar, hread]
  · simp only [hd, Option.map_some]
  · exact fun _ heq => hdouble (List.cons.inj heq).1
  · exact fun _ heq => hsingle (List.cons.inj heq).1

theorem Plainly.writes {column : Nat} {text written : List Char} {d : Document} (h : Plainly text)
    (hne : text ≠ []) (hd : resolve text = some d) (hw : Folds column text written) :
    Writes column d written := by
  refine ⟨fun rest hrest => h.readScalar hne hd hw hrest, ?_⟩
  obtain ⟨c, after, rfl⟩ := List.exists_cons_of_ne_nil hne
  obtain ⟨hspace, hbreak, hlist, hmapping, -, -, hmark⟩ := h.begins c after rfl
  obtain ⟨tail, rfl, hafter⟩ := hw.begins hspace
  refine ⟨c, tail, rfl, hspace, hbreak, hlist, hmapping, fun hc => ?_⟩
  have hgap := hmark hc
  -- What stands behind the mark was not folded, since it is no gap.
  cases after with
  | nil => exact absurd hgap (by decide)
  | cons d after =>
    have hd : d ≠ ' ' := by
      rintro rfl
      exact absurd hgap (by simp [isGapOrEnd, TypeAnnotation.Yaml.isSpaceOrEnd])
    obtain ⟨tail, rfl, -⟩ := hafter.begins hd
    exact hgap

theorem resolve_of_typeOf {s : String} (h : TypeAnnotation.Yaml.Plain.typeOf s = .str) :
    s.toList ≠ [] ∧ resolve s.toList = some (.string s) := by
  constructor
  · intro hempty
    have hs : s = "" := String.toList_eq_nil_iff.mp hempty
    rw [hs] at h
    exact absurd h (by decide)
  · rw [resolve, String.ofList_toList, h]

theorem writePlain_eq (fold : Bool) (indent : Nat) (text : List Char) (p : Pen) :
    writePlain fold indent text p =
      (text.splitBy fun c d => isSpace c == isSpace d).foldl (foldRun fold indent) (p.spaced []) :=
  rfl

/-- A text that is not folded is written as it is. -/
theorem text_writePlain (indent : Nat) (text : List Char) (p : Pen) :
    (writePlain false indent text p).text = p.text ++ (p.gap ++ text) ∧
      (writePlain false indent text p).Ended := by
  have hruns : ∀ (runs : List (List Char)) (p : Pen), p.Ended →
      (runs.foldl (foldRun false indent) p).text = p.text ++ runs.flatten ∧
        (runs.foldl (foldRun false indent) p).Ended := by
    intro runs
    induction runs with
    | nil => exact fun p hp => ⟨(List.append_nil _).symm, hp⟩
    | cons run runs ih =>
      intro p hp
      have hrun : foldRun false indent p run = p.put run := by simp [foldRun]
      obtain ⟨htext, hended⟩ := ih (p.put run) (hp.put run)
      rw [List.foldl_cons, hrun, htext, Pen.text_put, List.append_assoc]
      exact ⟨rfl, hended⟩
  obtain ⟨htext, hended⟩ := hruns (text.splitBy fun c d => isSpace c == isSpace d) (p.spaced [])
    (p.ended_spaced [])
  rw [writePlain_eq]
  refine ⟨?_, hended⟩
  rw [htext, Pen.text_spaced, List.flatten_splitBy, List.append_nil, List.append_assoc]

theorem exists_writePlain (fold : Bool) (indent : Nat) {text : List Char} (h : Plainly text)
    (p : Pen) :
    ∃ written, Folds indent text written ∧
      (writePlain fold indent text p).text = p.text ++ (p.gap ++ written) ∧
      (writePlain fold indent text p).Ended := by
  have hlast : ∀ c ∈ (text.splitBy fun c d => isSpace c == isSpace d).flatten.getLast?, c ≠ ' ' := by
    rw [List.flatten_splitBy]
    exact h.last
  obtain ⟨written, hfolds, htext, hended⟩ :=
    exists_folds fold indent (classRuns_splitBy isSpace text) hlast (p.ended_spaced [])
  rw [List.flatten_splitBy] at hfolds
  rw [writePlain_eq]
  refine ⟨written, hfolds, ?_, hended⟩
  rw [htext, Pen.text_spaced, List.append_nil, List.append_assoc]

end TypeAnnotation.Document.Yaml
