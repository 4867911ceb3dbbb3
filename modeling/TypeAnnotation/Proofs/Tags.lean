import Mathlib.Data.List.Infix
import TypeAnnotation.Markup

/-! # Tags

Whether markup can be shown depends on its tags alone: each closing tag has to close one that is
open, no handler that is closed may be faulty, and no style may hold a number that cannot be read.
Markup without tags can always be shown, and a styled word in front of markup makes no difference.
-/
namespace TypeAnnotation.Markup

/-- The markup can be shown, and so can all its styles. -/
def Showable (markup : String) : Prop :=
  ∃ r, plain markup = .ok r ∧ ∀ span ∈ r.spans, Style.fault? span.style = none

/-! ## The tags of a text -/

/-- The bodies of the tags in a text, after skipping some characters. A tag behind an odd number of
backslashes is plain text. -/
def tagsFrom (skip : Nat) : List Char → List (List Char)
  | [] => []
  | c :: rest =>
    if skip = 0 then
      match tagAt? (c :: rest) with
      | some (slashes, body) =>
        (if slashes % 2 = 1 then [] else [body]) ++ tagsFrom (slashes + body.length + 1) rest
      | none => tagsFrom 0 rest
    else tagsFrom (skip - 1) rest

def tagsOf (ps : List Piece) : List (List Char) :=
  ps.filterMap fun
    | .tag _ body => some body
    | .text _ | .apart _ => none

theorem tagsOf_append (ps qs : List Piece) : tagsOf (ps ++ qs) = tagsOf ps ++ tagsOf qs :=
  List.filterMap_append

theorem tagsOf_consChar (c : Char) (ps : List Piece) : tagsOf (consChar c ps) = tagsOf ps := by
  cases ps with
  | nil => rfl
  | cons p ps => cases p <;> rfl

theorem tagsOf_tagPieces (position slashes : Nat) (body : List Char) :
    tagsOf (tagPieces position slashes body) = if slashes % 2 = 1 then [] else [body] := by
  rw [tagPieces, tagsOf_append]
  have hliteral : ∀ literal : List Char,
      tagsOf (if literal.isEmpty then [] else [.apart literal]) = [] := by
    intro literal
    split <;> rfl
  rw [hliteral, List.nil_append]
  split <;> rfl

/-- The tags of a text do not depend on where it stands. -/
theorem tagsOf_piecesFrom (position skip : Nat) (text : List Char) :
    tagsOf (piecesFrom position skip text) = tagsFrom skip text := by
  induction text generalizing position skip with
  | nil => rfl
  | cons c rest ih =>
    rw [piecesFrom, tagsFrom]
    split
    · cases tagAt? (c :: rest) with
      | some tag => simp only [tagsOf_append, tagsOf_tagPieces, ih]
      | none => simp only [tagsOf_consChar, ih]
    · exact ih _ _

/-- What stands between the brackets of a tag begins with it. -/
theorem eq_append_of_tagBody? {text body : List Char} (h : tagBody? text = some body) :
    ∃ rest, text = body ++ ']' :: rest := by
  cases text with
  | nil => cases h
  | cons first rest =>
    simp only [tagBody?] at h
    split at h
    · rename_i hclosed
      obtain rfl := Option.some.inj h
      rw [Bool.and_eq_true, beq_iff_eq] at hclosed
      obtain ⟨after, hafter⟩ := List.head?_eq_some_iff.mp hclosed.2
      have htake := List.takeWhile_prefix (fun c => c != '[' && c != ']') (l := rest)
      refine ⟨after, ?_⟩
      rw [← hafter, List.cons_append, ← List.prefix_append_drop htake]
    · cases h

/-- A tag stands in the text with a bracket before it. -/
theorem infix_of_tagAt? {text body : List Char} {slashes : Nat}
    (h : tagAt? text = some (slashes, body)) : '[' :: body <:+: text := by
  simp only [tagAt?] at h
  split at h
  · rename_i inner hdrop
    obtain ⟨found, hfound, heq⟩ := Option.map_eq_some_iff.mp h
    obtain rfl := (Prod.mk.inj heq).2
    obtain ⟨rest, rfl⟩ := eq_append_of_tagBody? hfound
    have hprefix : '[' :: found <+: '[' :: (found ++ ']' :: rest) :=
      ⟨']' :: rest, by simp⟩
    rw [← hdrop] at hprefix
    exact hprefix.isInfix.trans (List.drop_suffix _ text).isInfix
  · cases h

theorem infix_of_mem_tagsFrom {text body : List Char} {skip : Nat} (h : body ∈ tagsFrom skip text) :
    '[' :: body <:+: text := by
  induction text generalizing skip with
  | nil => cases h
  | cons c rest ih =>
    have hrest : ∀ {skip : Nat}, body ∈ tagsFrom skip rest → '[' :: body <:+: c :: rest :=
      fun h => (ih h).trans (List.suffix_cons c rest).isInfix
    rw [tagsFrom] at h
    split at h
    · split at h
      · rename_i hat
        rcases List.mem_append.mp h with h | h
        · split at h
          · cases h
          · rw [List.mem_singleton.mp h]
            exact infix_of_tagAt? hat
        · exact hrest h
      · exact hrest h
    · exact hrest h

/-- A tag begins with a character that tags may begin with. -/
theorem startsTag_of_tagBody? {text body : List Char} (h : tagBody? text = some body) :
    ∃ first rest, body = first :: rest ∧ startsTag first = true := by
  cases text with
  | nil => cases h
  | cons first rest =>
    simp only [tagBody?] at h
    split at h
    · rename_i hbegins
      rw [Bool.and_eq_true] at hbegins
      exact ⟨first, _, (Option.some.inj h).symm, hbegins.1⟩
    · cases h

theorem startsTag_of_mem_tagsFrom {text body : List Char} {skip : Nat}
    (h : body ∈ tagsFrom skip text) : ∃ first rest, body = first :: rest ∧ startsTag first = true := by
  induction text generalizing skip with
  | nil => cases h
  | cons c rest ih =>
    rw [tagsFrom] at h
    split at h
    · split at h
      · rename_i slashes found hat
        rcases List.mem_append.mp h with h | h
        · split at h
          · cases h
          · rw [List.mem_singleton.mp h]
            simp only [tagAt?] at hat
            split at hat
            · obtain ⟨inner, hinner, heq⟩ := Option.map_eq_some_iff.mp hat
              rw [← (Prod.mk.inj heq).2]
              exact startsTag_of_tagBody? hinner
            · cases hat
        · exact ih h
      · exact ih h
    · exact ih h

/-! ## Following the tags -/

def follow (opened : List OpenTag) : List (List Char) → Option (List String)
  | [] => some (opened.map OpenTag.style)
  | body :: rest =>
    match tagName body with
    | '/' :: name =>
      match close? OpenTag.name (Text.trim name) opened with
      | .ok (some (tag, others)) =>
        if tag.error?.isSome then none else (follow others rest).map (tag.style :: ·)
      | _ => none
    | _ =>
      match OpenTag.ofBody body with
      | .ok tag => follow (tag :: opened) rest
      | .error _ => none

/-- Tags are closed by their names, wherever they were opened. -/
theorem close?_map {α β : Type} (f : α → β) (nameOf : β → String) (name : List Char)
    (opened : List α) :
    (close? (nameOf ∘ f) name opened).map (Option.map fun found => (f found.1, found.2.map f)) =
      close? nameOf name (opened.map f) := by
  unfold close?
  split
  · cases opened <;> rfl
  · cases (Style.normalForm name).mapError Error.numeral with
    | error error => rfl
    | ok name =>
      simp only [Except.map, bind, Except.bind, pure, Except.pure, List.find?_map, Option.map_map,
        List.eraseP_map, Function.comp_def]

def stylesOf (shown : Except Error Rendered) : Option (List String) :=
  shown.toOption.map fun r => r.spans.map Span.style

theorem stylesOf_behind (found : Except Error Rendered) (text : List Char) :
    stylesOf (do return (← found).behind text) = stylesOf found := by
  cases found <;> rfl

theorem stylesOf_cons (found : Except Error Rendered) (span : Span) :
    stylesOf (do
      let r ← found
      return { r with spans := span :: r.spans }) = (stylesOf found).map (span.style :: ·) := by
  cases found <;> rfl

section
variable {done position : Nat} {opened : List (Nat × OpenTag)} {body : List Char} {ps : List Piece}
  (ih : ∀ {done opened}, stylesOf (render done opened ps) = follow (opened.map (·.2)) (tagsOf ps))
include ih

theorem stylesOf_opening (h : ∀ name, tagName body ≠ '/' :: name) :
    stylesOf (render done opened (.tag position body :: ps)) =
      follow (opened.map (·.2)) (body :: tagsOf ps) := by
  have hrender : render done opened (.tag position body :: ps) =
      (OpenTag.ofBody body).bind fun tag => render done ((done, tag) :: opened) ps := by
    rw [render]
    split
    · rename_i name hname
      exact absurd hname (h name)
    · rfl
  rw [hrender, follow]
  split
  · rename_i name hname
    exact absurd hname (h name)
  · cases OpenTag.ofBody body with
    | error error => rfl
    | ok tag => exact ih

theorem stylesOf_closing {name : List Char} (h : tagName body = '/' :: name) :
    stylesOf (render done opened (.tag position body :: ps)) =
      follow (opened.map (·.2)) (body :: tagsOf ps) := by
  have hclose := close?_map (·.2) OpenTag.name (Text.trim name) opened
  simp only [render, follow, h]
  rw [← hclose]
  have hname : (OpenTag.name ∘ fun found : Nat × OpenTag => found.2) = fun found => found.2.name := rfl
  rw [hname]
  cases close? (fun found : Nat × OpenTag => found.2.name) (Text.trim name) opened with
  | error error => rfl
  | ok found =>
    cases found with
    | none => rfl
    | some found =>
      obtain ⟨⟨start, tag⟩, others⟩ := found
      cases herror : tag.error? with
      | some error => simp [herror, Except.map, bind, Except.bind, stylesOf, Except.toOption]
      | none =>
        have hrest := stylesOf_cons (render done others ps) ⟨start, done, tag.style⟩
        rw [ih] at hrest
        simpa [herror, Except.map, bind, Except.bind] using hrest

end

/-- Whether pieces are shown, and in which styles, is decided by the tags among them. -/
theorem stylesOf_render (done : Nat) (opened : List (Nat × OpenTag)) (ps : List Piece) :
    stylesOf (render done opened ps) = follow (opened.map (·.2)) (tagsOf ps) := by
  induction ps generalizing done opened with
  | nil => simp [stylesOf, render, follow, tagsOf, Except.toOption]
  | cons p ps ih =>
    cases p with
    | text chars =>
      rw [render, stylesOf_behind]
      exact ih _ _
    | apart chars =>
      rw [render, stylesOf_behind]
      exact ih _ _
    | tag position body =>
      by_cases hclosing : ∃ name, tagName body = '/' :: name
      · obtain ⟨name, hname⟩ := hclosing
        exact stylesOf_closing (ih _ _) hname
      · exact stylesOf_opening (ih _ _) (not_exists.mp hclosing)

theorem stylesOf_plain (markup : String) :
    stylesOf (plain markup) = follow [] (tagsFrom 0 markup.toList) := by
  rw [plain, stylesOf_render, pieces, tagsOf_piecesFrom]
  rfl

theorem showable_iff (markup : String) :
    Showable markup ↔ ∃ styles, follow [] (tagsFrom 0 markup.toList) = some styles ∧
      ∀ style ∈ styles, Style.fault? style = none := by
  rw [Showable, ← stylesOf_plain, stylesOf]
  cases plain markup with
  | error error => simp [Except.toOption]
  | ok r => simp [Except.toOption]

/-! ## Behind a styled word -/

/-- Only a tag with a value can be faulty. -/
theorem OpenTag.error?_eq_none {t : OpenTag} (h : t.value = "") : t.error? = none := by
  simp [error?, h]

/-- A word that is a style of its own, and one without numbers that cannot be read. -/
structure IsStyle (word : String) : Prop where
  ofBody : OpenTag.ofBody word.toList = .ok ⟨word, ""⟩
  opens : ∀ name, tagName word.toList ≠ '/' :: name
  harmless : Style.fault? word = none

theorem isStyle_red : IsStyle "red" := ⟨by decide +kernel, nofun, by decide +kernel⟩

/-- A style that is turned off at once makes no difference to what follows. -/
theorem IsStyle.follow {word : String} (h : IsStyle word) (rest : List (List Char)) :
    follow [] (word.toList :: ['/'] :: rest) = (follow [] rest).map (word :: ·) := by
  have hopen : Markup.follow [] (word.toList :: ['/'] :: rest) =
      Markup.follow [⟨word, ""⟩] (['/'] :: rest) := by
    rw [Markup.follow, h.ofBody]
    split
    · rename_i name hname
      exact absurd hname (h.opens name)
    · rfl
  have hclose : close? OpenTag.name (Text.trim []) [⟨word, ""⟩] = .ok (some (⟨word, ""⟩, [])) := rfl
  have hname : tagName ['/'] = ['/'] := rfl
  have herror : OpenTag.error? ⟨word, ""⟩ = none := OpenTag.error?_eq_none rfl
  have hstyle : OpenTag.style ⟨word, ""⟩ = word := rfl
  rw [hopen, Markup.follow, hname]
  simp only [hclose, herror, hstyle, Option.isSome_none, Bool.false_eq_true, if_false]

/-- A style in front that is turned off at once makes no difference. -/
theorem IsStyle.showable_iff {word markup text : String} (h : IsStyle word)
    (htags : tagsFrom 0 markup.toList = word.toList :: ['/'] :: tagsFrom 0 text.toList) :
    Showable markup ↔ Showable text := by
  rw [Markup.showable_iff, Markup.showable_iff, htags, h.follow]
  cases Markup.follow [] (tagsFrom 0 text.toList) with
  | none => simp
  | some styles => simp [h.harmless]

/-- A style that is turned on and off once. -/
theorem IsStyle.showable {word markup : String} (h : IsStyle word)
    (htags : tagsFrom 0 markup.toList = [word.toList, ['/']]) : Showable markup := by
  have hempty : Showable "" :=
    (Markup.showable_iff "").mpr ⟨[], rfl, fun style hstyle => absurd hstyle List.not_mem_nil⟩
  exact (h.showable_iff htags).mpr hempty

/-- A closing tag with nothing before it closes nothing. -/
theorem follow_closing (name : List Char) (rest : List (List Char)) :
    follow [] (('/' :: name) :: rest) = none := by
  have hname : tagName ('/' :: name) = '/' :: tagName name := rfl
  have hnone : ∀ text, (close? OpenTag.name text []).toOption.join = none := by
    intro text
    unfold close?
    split
    · rfl
    · cases (Style.normalForm text).mapError Error.numeral <;> rfl
  have hclosing := hnone (Text.trim (tagName name))
  rw [follow, hname]
  simp only
  split
  · rename_i tag others hclose
    rw [hclose] at hclosing
    cases hclosing
  · rfl

/-- The line that reports an entry. -/
theorem tagsFrom_entry (text : String) :
    tagsFrom 0 ("  [red]x[/] " ++ text).toList =
      "red".toList :: ['/'] :: tagsFrom 0 text.toList := by
  rw [String.toList_append]
  rfl

/-- The line that reports a single error. -/
theorem tagsFrom_invalid (text : String) :
    tagsFrom 0 ("[red]Invalid annotation:[/] " ++ text).toList =
      "red".toList :: ['/'] :: tagsFrom 0 text.toList := by
  rw [String.toList_append]
  rfl

end TypeAnnotation.Markup
