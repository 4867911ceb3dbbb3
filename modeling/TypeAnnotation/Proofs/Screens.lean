import TypeAnnotation.Command.Outcome
import TypeAnnotation.Proofs.ErrorMessages

/-! # What a screen can show

Screens may differ in how they show markup. They are only taken to read tags: a style that is turned
on and off again can be shown, and a closing tag with nothing to close cannot. The terminal is one
of them, and can show all markup whose tags can be followed and whose styles do no harm.
-/
namespace TypeAnnotation

namespace Markup

/-- Styles without numbers that cannot be read stay harmless, in whatever order they are read. -/
theorem Rendered.fault?_eq_none {r : Rendered}
    (h : ∀ span ∈ r.spans, Style.fault? span.style = none) (divided : Bool) :
    r.fault? divided = none := by
  rw [fault?, List.findSome?_eq_none_iff]
  intro span hspan
  rw [List.mem_mergeSort, List.mem_reverse, List.mem_filter] at hspan
  exact h span hspan.1

end Markup

open Markup

/-! ## Tables -/

section
variable {α β ε : Type} {f : α → Except ε β} {P : β → Prop}

theorem exists_mapM_eq_ok {xs : List α} (h : ∀ x ∈ xs, ∃ y, f x = .ok y ∧ P y) :
    ∃ ys, xs.mapM f = .ok ys ∧ ∀ y ∈ ys, P y := by
  induction xs with
  | nil => exact ⟨[], rfl, nofun⟩
  | cons x xs ih =>
    obtain ⟨⟨y, hy, hp⟩, hxs⟩ := List.forall_mem_cons.mp h
    obtain ⟨ys, hys, hps⟩ := ih hxs
    refine ⟨y :: ys, ?_, List.forall_mem_cons.mpr ⟨hp, hps⟩⟩
    rw [List.mapM_cons, hy, hys]
    rfl

namespace Layout

structure Column.All (P : α → Prop) (c : Column α) : Prop where
  header : P c.header
  cells : ∀ x ∈ c.cells, P x

theorem Column.exists_mapTexts {c : Column α} (h : c.All fun x => ∃ y, f x = .ok y ∧ P y) :
    ∃ c', c.mapTexts f = .ok c' ∧ c'.All P := by
  obtain ⟨header, hheader, hp⟩ := h.header
  obtain ⟨cells, hcells, hps⟩ := exists_mapM_eq_ok h.cells
  refine ⟨⟨header, c.centered, cells⟩, ?_, hp, hps⟩
  rw [Column.mapTexts, hheader, hcells]
  rfl

theorem Table.exists_mapTexts {t : Table α} (htitle : ∃ y, f t.title = .ok y ∧ P y)
    (hcolumns : ∀ c ∈ t.columns, c.All fun x => ∃ y, f x = .ok y ∧ P y) :
    ∃ t', t.mapTexts f = .ok t' ∧ P t'.title ∧ ∀ c ∈ t'.columns, c.All P := by
  obtain ⟨title, htitle, hp⟩ := htitle
  obtain ⟨columns, hmap, hps⟩ :=
    exists_mapM_eq_ok fun c hc => Column.exists_mapTexts (hcolumns c hc)
  refine ⟨⟨title, columns⟩, ?_, hp, hps⟩
  rw [Table.mapTexts, hmap, htitle]
  rfl

end Layout

end

namespace Command.Screen

/-- The screen can show a paragraph of markup. -/
def Shows (screen : Screen) (markup : String) : Prop := ∃ text, screen.paragraph markup = .ok text

/-- What is taken of a screen: it can show a word in red with nothing but plain text around it, and
not a closing tag that stands behind that word and closes nothing. -/
structure ReadsTags (screen : Screen) : Prop where
  closed : ∀ markup, tagsFrom 0 markup.toList = ["red".toList, ['/']] → screen.Shows markup
  unmatched : ∀ markup name rest,
    tagsFrom 0 markup.toList = "red".toList :: ['/'] :: ('/' :: name) :: rest →
      ¬ screen.Shows markup

theorem terminal_paragraph_eq_ok {markup : String} {r : Rendered} (hplain : plain markup = .ok r)
    (h : ∀ span ∈ r.spans, Style.fault? span.style = none) :
    terminal.paragraph markup = .ok (joinLines (Layout.paragraph terminalWidth r.text)) := by
  simp only [terminal, hplain, Rendered.fault?_eq_none h, checkStyles, Except.mapError, bind,
    Except.bind, pure, Except.pure]

theorem terminal_shows {markup : String} (h : Showable markup) : terminal.Shows markup := by
  obtain ⟨r, hplain, hspans⟩ := h
  exact ⟨_, terminal_paragraph_eq_ok hplain hspans⟩

/-- The terminal can show a table of texts that it can show. -/
theorem exists_terminal_table {t : Layout.Table String} (htitle : Showable t.title)
    (hcolumns : ∀ c ∈ t.columns, c.All Showable) : ∃ text, terminal.table t = .ok text := by
  obtain ⟨shown, hmap, htitle, hcolumns⟩ := Layout.Table.exists_mapTexts htitle hcolumns
  have hcells : ((shown.columns.flatMap fun c => c.header :: c.cells).findSome?
      (·.fault? false)) = none := by
    rw [List.findSome?_eq_none_iff]
    intro r hr
    obtain ⟨c, hc, hr⟩ := List.mem_flatMap.mp hr
    apply Rendered.fault?_eq_none
    rcases List.mem_cons.mp hr with rfl | hr
    · exact (hcolumns c hc).header
    · exact (hcolumns c hc).cells r hr
  refine ⟨joinLines ((shown.map (·.text)).render terminalWidth), ?_⟩
  simp only [terminal, hmap, Rendered.fault?_eq_none htitle, hcells, checkStyles, Except.mapError,
    bind, Except.bind, pure, Except.pure]

theorem readsTags_terminal : terminal.ReadsTags := by
  refine ⟨fun markup htags => terminal_shows (isStyle_red.showable htags), ?_⟩
  rintro markup name rest htags ⟨text, htext⟩
  have hstyles : stylesOf (plain markup) = none := by
    rw [stylesOf_plain, htags, isStyle_red.follow, follow_closing]
    rfl
  cases hplain : plain markup with
  | error error =>
    simp only [terminal, hplain, Except.mapError, bind, Except.bind] at htext
    cases htext
  | ok r =>
    rw [hplain] at hstyles
    cases hstyles

end Command.Screen

end TypeAnnotation
