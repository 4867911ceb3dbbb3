import TypeAnnotation.Command.Run
import TypeAnnotation.Proofs.BatchDocument
import TypeAnnotation.Proofs.ClassNames

/-! # Annotations that are shown

The text of an annotation and what it is normalized to are shown in markup without being escaped.
Nothing in them is taken for a tag: in the text, all brackets are in bracket pairs, and in the
descriptors there are none. So an annotation that can be read can be shown in every format.
-/
namespace TypeAnnotation
open Lexeme Token Grammar

/-! ## Brackets in a text -/

/-- Each opening bracket has a closing one right behind it. -/
def Markup.Paired (cs : List Char) : Prop := ∀ after, '[' :: after <:+ cs → after.head? = some ']'

namespace Markup.Paired
variable {c : Char} {cs : List Char}

theorem tail (h : Paired (c :: cs)) : Paired cs :=
  fun after hs => h after (hs.trans (List.suffix_cons c cs))

theorem cons (hc : c = '[' → cs.head? = some ']') (h : Paired cs) : Paired (c :: cs) := by
  intro after hs
  rcases List.suffix_cons_iff.mp hs with heq | hs
  · obtain ⟨rfl, rfl⟩ := List.cons.inj heq
    exact hc rfl
  · exact h after hs

theorem append {n : List Char} (hn : '[' ∉ n) (h : Paired cs) : Paired (n ++ cs) := by
  induction n with
  | nil => exact h
  | cons d n ih =>
    rw [List.mem_cons, not_or] at hn
    exact .cons (fun hd => absurd hd.symm hn.1) (ih hn.2)

theorem nil : Paired [] := by
  intro after hs
  cases List.suffix_nil.mp hs

theorem of_not_mem (h : '[' ∉ cs) : Paired cs := by
  have hpaired := append h nil
  rwa [List.append_nil] at hpaired

end Markup.Paired

open Markup

/-- What is scanned has brackets in pairs only. -/
theorem Spells.paired {cs : List Char} {w : List Lexeme} (h : Spells cs w) : Paired cs := by
  induction h with
  | nil => exact .nil
  | blank hc h ih =>
    refine .cons ?_ ih
    rintro rfl
    exact absurd hc (by decide)
  | brackets h ih => exact .cons (fun _ => rfl) (.cons (fun hb => absurd hb (by decide)) ih)
  | mark hl h ih => exact .cons (fun hb => absurd hb (not_name_of_ofMark? hl).1) ih
  | name hn he h ih => exact .append (fun hb => absurd (hn.continuesName hb) (by decide)) ih

/-- No lexeme begins with a hyphen. -/
theorem Spells.head?_ne_hyphen {cs : List Char} {w : List Lexeme} (h : Spells cs w) :
    cs.head? ≠ some '-' := by
  intro hhead
  cases h with
  | nil => cases hhead
  | blank hc h =>
    obtain rfl := Option.some.inj hhead
    exact absurd hc (by decide)
  | brackets h => exact absurd (Option.some.inj hhead) (by decide)
  | mark hl h =>
    obtain rfl := Option.some.inj hhead
    cases hl
  | @name n cs w hn he h =>
    cases n with
    | nil => exact hn.elim
    | cons c n =>
      obtain rfl := Option.some.inj hhead
      exact absurd hn.1 (by decide)

namespace Markup

theorem tagAt?_backslash (text : List Char) :
    tagAt? ('\\' :: text) = (tagAt? text).map fun tag => (tag.1 + 1, tag.2) := by
  have hslashes : ('\\' :: text).takeWhile (· == '\\') = '\\' :: text.takeWhile (· == '\\') := rfl
  simp only [tagAt?, hslashes, List.length_cons, List.drop_succ_cons]
  split
  · rw [Option.map_map]
    rfl
  · rfl

theorem tagAt?_of_ne {c : Char} (hslash : c ≠ '\\') (hbracket : c ≠ '[') (text : List Char) :
    tagAt? (c :: text) = none := by
  have hslashes : (c :: text).takeWhile (· == '\\') = [] := by simp [hslash]
  simp only [tagAt?, hslashes, List.length_nil, List.drop_zero]
  split
  · rename_i heq
    exact absurd (List.cons.inj heq).1 hbracket
  · rfl

namespace Paired
variable {cs : List Char} {title : String}

/-- No tag begins among the bracket pairs, also not behind backslashes. -/
theorem tagAt?_eq_none (h : Paired cs) (rest : List Char) : tagAt? (cs ++ ':' :: rest) = none := by
  induction cs with
  | nil => exact tagAt?_of_ne (by decide) (by decide) rest
  | cons c cs ih =>
    rw [List.cons_append]
    by_cases hslash : c = '\\'
    · rw [hslash, tagAt?_backslash, ih h.tail]
      rfl
    by_cases hbracket : c = '['
    · subst hbracket
      obtain ⟨after, rfl⟩ := List.head?_eq_some_iff.mp (h cs (List.suffix_refl _))
      rfl
    · exact tagAt?_of_ne hslash hbracket _

theorem tagsFrom_append (h : Paired cs) (rest : List Char) :
    tagsFrom 0 (cs ++ ':' :: rest) = tagsFrom 0 (':' :: rest) := by
  induction cs with
  | nil => rfl
  | cons c cs ih =>
    have hnone : tagAt? (c :: (cs ++ ':' :: rest)) = none := h.tagAt?_eq_none rest
    rw [List.cons_append, tagsFrom, if_pos rfl, hnone]
    exact ih h.tail

theorem withoutTags (h : Paired cs) : WithoutTags cs := by
  rw [WithoutTags, List.isChain_iff_forall_rel_of_append_cons_cons]
  rintro c d before after rfl rfl
  obtain rfl : d = ']' := Option.some.inj (h (d :: after) (List.suffix_append before _))
  decide

theorem showable (h : Paired title.toList) : Showable title := h.withoutTags.showable

/-- The remark that there is nothing to show closes the one tag that it opens. -/
theorem showable_remark (h : Paired title.toList) :
    Showable ("[yellow]" ++ title ++ ": no type information.[/]") := by
  have hyellow : IsStyle "yellow" := ⟨by decide +kernel, nofun, by decide +kernel⟩
  have htext : ("[yellow]" ++ title ++ ": no type information.[/]").toList =
      "[yellow]".toList ++ (title.toList ++ ':' :: " no type information.[/]".toList) := by simp
  have hopening : ∀ rest, tagsFrom 0 ("[yellow]".toList ++ rest) =
      "yellow".toList :: tagsFrom 0 rest := fun _ => rfl
  have hclosing : tagsFrom 0 (':' :: " no type information.[/]".toList) = [['/']] := rfl
  apply hyellow.showable
  rw [htext, hopening, h.tagsFrom_append, hclosing]

end Paired

end Markup

/-! ## Brackets in a descriptor -/

namespace Descriptor

abbrev Bracketless : Descriptor → Prop := ClassesAmong fun c => '[' ∉ c.toList

theorem bracket_not_mem_label (kind : Kind) {className : Option String}
    (h : ∀ c ∈ className, '[' ∉ c.toList) : '[' ∉ (label kind className).toList := by
  have hkind : '[' ∉ kind.name.toList := by cases kind <;> decide
  cases className with
  | none => exact hkind
  | some c =>
    rw [label]
    split
    · exact hkind
    · exact h c rfl

mutual

theorem Bracketless.not_mem_render : ∀ {d : Descriptor}, d.Bracketless → '[' ∉ d.render.toList
  | ⟨kind, nullable, className, isCollection, key, value⟩, h => by
    have hlabel := bracket_not_mem_label kind (h _ (.self _))
    have hkey := not_mem_renderSlot fun k hk p hp => h p (.key hk hp)
    have hvalue := not_mem_renderSlot fun v hv p hp => h p (.value hv hp)
    rw [render]
    split <;> split <;> simp [hlabel, hkey, hvalue]

theorem not_mem_renderSlot : ∀ {slot : Option Descriptor}, (∀ d ∈ slot, d.Bracketless) →
    '[' ∉ (renderSlot slot).toList
  | none, _ => by
    rw [renderSlot]
    decide
  | some d, h => by
    have hd := h d rfl
    rw [renderSlot]
    exact hd.not_mem_render

end

end Descriptor

/-! ## Tables that can be written -/

namespace Command

/-- A column can be shown if its header and its cells can. -/
theorem showable_column {header : String} {centered : Bool} {ds : List Descriptor}
    {cell : Descriptor → String} (hheader : '[' ∉ header.toList)
    (hcells : ∀ d ∈ ds, Showable (cell d)) :
    Layout.Column.All Showable ⟨header, centered, ds.map cell⟩ := by
  refine ⟨(Paired.of_not_mem hheader).showable, fun x hx => ?_⟩
  obtain ⟨d, hd, rfl⟩ := List.mem_map.mp hx
  exact hcells d hd

theorem showable_slotCell {slot : Option Descriptor} (h : ∀ d ∈ slot, d.Bracketless) :
    Showable (slotCell slot) := by
  apply Paired.showable
  cases slot with
  | none => exact .nil
  | some d =>
    have hd := h d rfl
    exact .of_not_mem hd.not_mem_render

/-- Descriptors of classes without brackets are shown under a title with bracket pairs only. -/
theorem exists_text_tabulate {title : String} {ds : List Descriptor} (ht : Paired title.toList)
    (hds : ∀ d ∈ ds, d.Bracketless) : ∃ text, (tabulate title ds).text .terminal = .ok text := by
  unfold tabulate
  split
  · exact Screen.terminal_shows ht.showable_remark
  refine Screen.exists_terminal_table (t := descriptorTable title ds) ht.showable ?_
  simp only [descriptorTable, List.forall_mem_cons]
  refine ⟨?type, ?kind, ?className, ?nullable, ?key, ?value, nofun⟩
  case type =>
    refine showable_column (by decide) fun d hd => ?_
    exact (Paired.of_not_mem (hds d hd).not_mem_render).showable
  case kind =>
    refine showable_column (by decide) fun d hd => (Paired.of_not_mem ?_).showable
    cases d.kind <;> decide
  case className =>
    refine showable_column (by decide) fun d hd => (Paired.of_not_mem ?_).showable
    cases hc : d.className with
    | none => exact nofun
    | some c => exact hds d hd d (.self d) c hc
  case nullable =>
    have hgreen : IsStyle "green" := ⟨by decide +kernel, nofun, by decide +kernel⟩
    have hdim : IsStyle "dim" := ⟨by decide +kernel, nofun, by decide +kernel⟩
    refine showable_column (by decide) fun d hd => ?_
    cases d.nullable with
    | false => exact hdim.showable rfl
    | true => exact hgreen.showable rfl
  case key =>
    refine showable_column (by decide) fun d hd => showable_slotCell fun k hk p hp => ?_
    exact hds d hd p (.key hk hp)
  case value =>
    refine showable_column (by decide) fun d hd => showable_slotCell fun v hv p hp => ?_
    exact hds d hd p (.value hv hp)

theorem exists_text_present (format : Format) {title : String} {ds : List Descriptor}
    (ht : Paired title.toList) (hds : ∀ d ∈ ds, d.Bracketless) :
    ∃ text, (present format title ds).text .terminal = .ok text := by
  unfold present
  split
  · exact ⟨_, rfl⟩
  · exact exists_text_tabulate ht hds

/-! ## The command -/

theorem normalize_outcome_of_parse {text : String} {e : Expr} (h : Expr.parse text = .ok e)
    (s : Settings) :
    (normalize s text).outcome.exit = 0 ∧ (normalize s text).outcome.escaped = none := by
  obtain ⟨w, hspells, -⟩ := Expr.spells_of_parse h
  obtain ⟨shown, hshown⟩ :=
    exists_text_present s.format hspells.paired (Expr.not_mem_class_of_parse h (by decide))
  obtain ⟨notes, hnotes⟩ := Outcome.ofWritings_append_ok (channel_log s e.normalize .terminal)
    .success [present s.format text e.normalize.value]
  have houtcome : (normalize s text).outcome = Outcome.behind .stderr notes
      (Outcome.behind (present s.format text e.normalize.value).channel shown { exit := 0 }) := by
    simp only [Report.outcome, Report.outcomeOn, normalize, normalizeText_of_parse h]
    rw [hnotes, Outcome.ofWritings_cons_ok hshown]
    rfl
  rw [houtcome]
  cases (present s.format text e.normalize.value).channel with
  | stdout => exact ⟨rfl, rfl⟩
  | stderr => exact ⟨rfl, rfl⟩

/-! ## The program -/

/-- An argument that does not begin with a hyphen is no option. -/
theorem isOption_eq_false {argument : String} (h : argument.toList.head? ≠ some '-') :
    isOption argument = false := by
  unfold isOption
  split
  · rename_i heq
    rw [heq] at h
    exact absurd rfl h
  · rfl

theorem readArguments_normalize {text : String} (h : text.toList.head? ≠ some '-')
    (format : Format) :
    readArguments Topic.normalize.flags true [text, "--format", format.name] =
      .ok { given := [(.format, format.name)], positional := [text] } := by
  have hend : text ≠ "--" := by
    rintro rfl
    exact h rfl
  rw [readArguments, if_neg hend, isOption_eq_false h]
  rfl

theorem run_normalize (around : Surroundings) {text : String} (h : text.toList.head? ≠ some '-')
    (format : Format) :
    run around ["normalize", text, "--format", format.name] =
      (normalize { format } text).outcome := by
  have hcommand : readCommand around false .normalize [text, "--format", format.name] =
      .ok (.normalize { format } text) := by
    rw [readCommand, readArguments_normalize h]
    cases format <;> rfl
  have hinvocation : Invocation.ofArguments around ["normalize", text, "--format", format.name] =
      .ok (.normalize { format } text) :=
    congrArg (Except.mapError (Refusal.misuse .normalize)) hcommand
  rw [run, reportOf, hinvocation]
  rfl

/-- Whatever annotation can be read can be shown in every format, and the program ends well. In a
text that is scanned all brackets are in pairs, and in the descriptors of an annotation no class has
a bracket, nor has what they are shown as, at any depth. So nothing is taken for a tag. -/
theorem normalize_ends_well :
    (∀ text tokens, Token.scan text = .ok tokens →
      ∀ after, '[' :: after <:+ text.toList → after.head? = some ']') ∧
    ∀ text e, Expr.parse text = .ok e →
      (∃ found, normalizeText text = .ok found ∧ ∀ d ∈ found.value, ∀ p, d.Part p →
        (∀ c ∈ p.className, '[' ∉ c.toList) ∧ '[' ∉ p.render.toList) ∧
      (∀ s : Settings, (normalize s text).outcome.exit = 0 ∧
        (normalize s text).outcome.escaped = none) ∧
      ∀ around (format : Format),
        (run around ["normalize", text, "--format", format.name]).exit = 0 ∧
        (run around ["normalize", text, "--format", format.name]).escaped = none := by
  refine ⟨fun text tokens hscan => ?_, fun text e h => ⟨?_, normalize_outcome_of_parse h, ?_⟩⟩
  · exact (spells_of_scanFrom ((scan_eq_ok_iff text tokens).mp hscan)).paired
  · refine ⟨e.normalize, normalizeText_of_parse h, fun d hd p hp => ?_⟩
    have hbrackets : d.Bracketless := Expr.not_mem_class_of_parse h (by decide) d hd
    have hpart : p.Bracketless := fun q hq => hbrackets q (hp.trans hq)
    exact ⟨hpart p (.self p), hpart.not_mem_render⟩
  · intro around format
    obtain ⟨w, hspells, -⟩ := Expr.spells_of_parse h
    rw [run_normalize around hspells.head?_ne_hyphen]
    exact normalize_outcome_of_parse h _

/-- A pair of brackets in the title of a table, and a remark in place of one. -/
theorem normalize_ends_well_foos :
    Expr.parse "Foo[]" = .ok (.named "Foo[]") ∧ Expr.parse "mixed" = .ok (.named "mixed") ∧
      (∃ tokens, Token.scan "Foo[]" = .ok tokens) ∧
      (∀ after, '[' :: after <:+ "Foo[]".toList → after.head? = some ']') ∧
      (∃ found, normalizeText "Foo[]" = .ok found ∧ ∀ d ∈ found.value, ∀ p, d.Part p →
        (∀ c ∈ p.className, '[' ∉ c.toList) ∧ '[' ∉ p.render.toList) ∧
      (∀ s : Settings, (normalize s "Foo[]").outcome.exit = 0 ∧
        (normalize s "Foo[]").outcome.escaped = none) ∧
      ∀ around (format : Format),
        (run around ["normalize", "mixed", "--format", format.name]).exit = 0 ∧
          (run around ["normalize", "mixed", "--format", format.name]).escaped = none := by
  obtain ⟨hpaired, hends⟩ := normalize_ends_well
  obtain ⟨tokens, hscan, -⟩ := (Expr.parse_eq_ok_iff "Foo[]" _).mp Expr.parse_foos
  obtain ⟨hclasses, hexit, -⟩ := hends "Foo[]" _ Expr.parse_foos
  obtain ⟨-, -, hrun⟩ := hends "mixed" _ Expr.parse_mixed
  exact ⟨Expr.parse_foos, Expr.parse_mixed, ⟨tokens, hscan⟩, hpaired "Foo[]" tokens hscan,
    hclasses, hexit, hrun⟩

end Command

end TypeAnnotation
