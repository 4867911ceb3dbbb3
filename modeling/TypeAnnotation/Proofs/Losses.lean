import TypeAnnotation.Proofs.Composition
import TypeAnnotation.Proofs.WellFormed

/-! # What a normalization loses

A name has no descriptor only if it is empty or `mixed`. Of the alternatives of an annotation, none
is a union or foreign and none has an empty name, so that `mixed` is all that is ever left out.
-/
namespace TypeAnnotation
open Token

/-! ## Names without a descriptor -/

theorem Name.canonical_eq_self_or_mem (name : String) :
    canonical name = name ∨ (name, canonical name) ∈ synonyms := by
  rw [canonical]
  cases h : synonyms.lookup name with
  | none => exact .inl rfl
  | some meant =>
    obtain ⟨before, after, hsplit, -⟩ := List.lookup_eq_some_iff.mp h
    rw [hsplit]
    exact .inr (by simp)

/-- Among names that are no synonyms and that no synonym stands for, a name is told apart from its
synonyms by nothing. -/
theorem Name.canonical_mem_iff {names : List String}
    (h : ∀ synonym ∈ synonyms, synonym.1 ∉ names ∧ synonym.2 ∉ names) (name : String) :
    canonical name ∈ names ↔ name ∈ names := by
  rcases canonical_eq_self_or_mem name with hself | hsynonym
  · rw [hself]
  · exact iff_of_false (h _ hsynonym).2 (h _ hsynonym).1

/-- No synonym stands for a name that tells no type, or is one. -/
theorem Name.canonical_mem_untold_iff (name : String) :
    canonical name ∈ ["", "mixed"] ↔ name ∈ ["", "mixed"] := canonical_mem_iff (by decide) name

namespace Descriptor

/-- With a bracket pair at its end a name is neither empty nor `mixed`. -/
theorem ofList_brackets_not_mem (element : List Char) :
    String.ofList (']' :: '[' :: element).reverse ∉ ["", "mixed"] := by
  intro h
  have hlast : ∀ name ∈ ["", "mixed"], name.toList.getLast? ≠ some ']' := by decide
  refine hlast _ h ?_
  rw [String.toList_ofList, List.getLast?_reverse]
  rfl

theorem ofReversedName?_eq_none_iff (cs : List Char) (flag : Bool) :
    ofReversedName? cs flag = none ↔ String.ofList cs.reverse ∈ ["", "mixed"] := by
  fun_induction ofReversedName? cs flag with
  | case1 element => exact iff_of_false (Option.some_ne_none _) (ofList_brackets_not_mem element)
  | case2 element flag h ih =>
    refine iff_of_false ?_ (ofList_brackets_not_mem element)
    rw [Option.map_eq_none_iff, ih]
    intro hmem
    exact h (by simpa [or_assoc] using Or.inl hmem)
  | case3 reversed flag hpair name hempty =>
    exact iff_of_true rfl ((Name.canonical_mem_untold_iff _).mp hempty)
  | case4 reversed flag hpair name hempty =>
    exact iff_of_false (Option.some_ne_none _) (mt (Name.canonical_mem_untold_iff _).mpr hempty)
  | case5 reversed flag hpair name hempty =>
    exact iff_of_false (Option.some_ne_none _) (mt (Name.canonical_mem_untold_iff _).mpr hempty)

/-- Only the empty name and `mixed` have no descriptor. -/
theorem ofName?_eq_none_iff (name : String) (flag : Bool) :
    ofName? name flag = none ↔ name = "" ∨ name = "mixed" := by
  rw [ofName?, ofReversedName?_eq_none_iff, List.reverse_reverse, String.ofList_toList,
    List.mem_pair]

end Descriptor

/-! ## The notes of a normalization -/

theorem Slot.notes_fill (slot : Slot) (container : String) (found : List Descriptor) :
    (slot.fill container found).notes =
      if found.length = 1 then [] else [.unknown slot container found.length] := by
  match found with
  | [] | [_] | _ :: _ :: _ => rfl

namespace Expr

/-- The notes on the alternatives of a union: those made on the way to the descriptor of each, and
one more if it has none. -/
theorem notes_describeAll (whole : Expr) (flag : Bool) (es : List Expr) :
    (describeAll whole flag es).notes = (withoutNulls es).flatMap fun e =>
      (e.describe flag).notes ++
        if (e.describe flag).value = none then [.dropped e whole] else [] := by
  induction es with
  | nil => rfl
  | cons e es ih =>
    rw [withoutNulls] at ih
    rw [describeAll, withoutNulls, List.filter_cons]
    cases hn : e.isNull with
    | true => simpa using ih
    | false => cases hd : (e.describe flag).value <;> simp [hd, ih]

/-- The notes on a generic are those on what its slots are given, and one more for each slot that
stays empty. -/
theorem mem_notes_describe_generic {n : String} {key value : Expr} {flag : Bool} {note : Note} :
    note ∈ ((generic n key value).describe flag).notes ↔
      note ∈ key.normalize.notes ∨ note ∈ (Slot.key.fill n key.normalize.value).notes ∨
        note ∈ value.normalize.notes ∨ note ∈ (Slot.value.fill n value.normalize.value).notes := by
  simp [describe, Descriptor.collection]

end Expr

/-! ## Annotations lose nothing but `mixed` -/

def Note.Mild : Note → Prop
  | dropped alternative _ => alternative = .named "mixed"
  | nested _ => False
  | unknown .. => True

theorem Slot.mild_of_mem_fill {slot : Slot} {container : String} {found : List Descriptor}
    {note : Note} (h : note ∈ (slot.fill container found).notes) : note.Mild := by
  rw [notes_fill] at h
  split at h
  · cases h
  · rw [List.mem_singleton.mp h]
    trivial

namespace Expr

theorem bracketed_ne_empty (name : String) (depth : Nat) : bracketed name (depth + 1) ≠ "" := by
  intro h
  have hlength := congrArg String.length h
  rw [bracketed, String.length_append] at hlength
  exact absurd hlength (by simp)

theorem IsTypeName.ne_empty {name : String} (h : IsTypeName name) : name ≠ "" := by
  obtain ⟨-, base, depth, rfl, hbase⟩ := h
  cases depth with
  | zero =>
    rcases hbase with hbase | ⟨-, hdepth⟩
    · exact hbase.ne_empty
    · exact absurd rfl hdepth
  | succ depth => exact bracketed_ne_empty base depth

namespace Canonical
variable {e : Expr}

/-- Of what stands between bars only `mixed` has no descriptor. -/
theorem describe_eq_none_iff (h : Canonical e) (hflat : e.isUnion = false) (flag : Bool) :
    (e.describe flag).value = none ↔ e = .named "mixed" := by
  cases h with
  | @named name hn =>
    have hnone := Descriptor.ofName?_eq_none_iff name flag
    simpa [describe, hn.ne_empty] using hnone
  | null =>
    have hnone := Descriptor.ofName?_eq_none_iff "null" flag
    exact iff_of_false (by simp [describe, hnone]) nofun
  | union => cases hflat
  | generic => exact iff_of_false nofun nofun

theorem mild_notes (h : Canonical e) :
    (∀ note ∈ e.normalize.notes, note.Mild) ∧
      (e.isUnion = false → ∀ flag, ∀ note ∈ (e.describe flag).notes, note.Mild) := by
  induction h with
  | named | null => exact ⟨nofun, fun _ _ => nofun⟩
  | @union es hlen hes hflat ih =>
    refine ⟨fun note hnote => ?_, nofun⟩
    rw [normalize, notes_describeAll, List.mem_flatMap] at hnote
    obtain ⟨a, ha, hnote⟩ := hnote
    have ha := (mem_withoutNulls.mp ha).1
    rcases List.mem_append.mp hnote with hnote | hnote
    · exact (ih a ha).2 (hflat a ha) _ note hnote
    · split at hnote
      · rename_i hnone
        rw [List.mem_singleton.mp hnote]
        exact ((hes a ha).describe_eq_none_iff (hflat a ha) _).mp hnone
      · cases hnote
  | @generic n key value hn hk hv ihk ihv =>
    have hgeneric : ∀ flag, ∀ note ∈ ((Expr.generic n key value).describe flag).notes,
        note.Mild := by
      intro flag note hnote
      rcases mem_notes_describe_generic.mp hnote with hnote | hnote | hnote | hnote
      · exact ihk.1 note hnote
      · exact Slot.mild_of_mem_fill hnote
      · exact ihv.1 note hnote
      · exact Slot.mild_of_mem_fill hnote
    refine ⟨fun note hnote => hgeneric false note ?_, fun _ => hgeneric⟩
    rwa [normalize_eq_describe rfl, Logged.notes_map] at hnote

/-- A union has as many descriptors as alternatives that are neither null nor `mixed`. -/
theorem length_normalize_union {es : List Expr} (h : Canonical (.union es)) :
    (Expr.union es).normalize.value.length = es.countP fun a => a ≠ .null ∧ a ≠ .named "mixed" := by
  cases h with
  | union hlen hes hflat =>
    rw [value_normalize_union, describeEach, List.length_filterMap_eq_countP, withoutNulls,
      List.countP_filter]
    refine List.countP_congr fun a ha => ?_
    have hnone := (hes a ha).describe_eq_none_iff (hflat a ha) (es.any isNull)
    have hnull : a.isNull = true ↔ a = .null := by cases a <;> simp [isNull]
    simp [Option.isSome_iff_ne_none, hnone, ← hnull, and_comm]

/-- Anything else but `mixed` has one. -/
theorem length_normalize (h : Canonical e) (hflat : e.isUnion = false) :
    e.normalize.value.length = if e = .named "mixed" then 0 else 1 := by
  have hnone := h.describe_eq_none_iff hflat e.isNull
  rw [normalize_eq_describe hflat, Logged.value_map]
  cases hd : (e.describe e.isNull).value with
  | none => rw [if_pos (hnone.mp hd)]; rfl
  | some d =>
    rw [if_neg fun he => ?_]
    · rfl
    · rw [hnone.mpr he] at hd
      cases hd

end Canonical

/-- Whatever annotation is normalized, no note is of a union within a union, and each alternative
that a note says was left out is `mixed`, at whatever depth. All the others are described, except
for the nulls of a union, which has as many descriptors as there are others. -/
theorem normalizeText_loses_mixed_only {text : String} {e : Expr} (h : parse text = .ok e) :
    ∃ found, normalizeText text = .ok found ∧
      (∀ inner, .nested inner ∉ found.notes) ∧
      (∀ alternative whole, .dropped alternative whole ∈ found.notes →
        alternative = named "mixed" ∧ alternative.render = "mixed") ∧
      (∀ es, e = union es →
        found.value.length = es.countP fun a => a ≠ null ∧ a ≠ named "mixed") ∧
      (e.isUnion = false → found.value.length = if e = named "mixed" then 0 else 1) := by
  have hcanonical := canonical_of_parse h
  have hmild := hcanonical.mild_notes.1
  refine ⟨e.normalize, ?_, fun inner hnote => hmild _ hnote, fun alternative whole hnote => ?_, ?_,
    hcanonical.length_normalize⟩
  · rw [normalizeText, h]
    rfl
  · obtain rfl : alternative = named "mixed" := hmild _ hnote
    exact ⟨rfl, rfl⟩
  · rintro es rfl
    exact hcanonical.length_normalize_union

theorem parse_mixed : parse "mixed" = .ok (named "mixed") :=
  parse_name ((isName_iff _).mpr (by decide)) (by decide)

/-- A `mixed` beside a null, one within a slot and one that is all of a slot. -/
theorem normalizeText_loses_mixed_only_map :
    parse "Map<int|mixed,mixed>|null|mixed" =
        .ok (union [generic "Map" (union [named "int", named "mixed"]) (named "mixed"), null,
          named "mixed"]) ∧
      ∃ found, normalizeText "Map<int|mixed,mixed>|null|mixed" = .ok found ∧
        (∀ inner, .nested inner ∉ found.notes) ∧
        (∀ alternative whole, .dropped alternative whole ∈ found.notes →
          alternative = named "mixed" ∧ alternative.render = "mixed") ∧
        found.value.length = 1 := by
  have hkey := parse_bar parse_int parse_mixed
  have hmap := parse_generic ((isName_iff "Map").mpr (by decide)) hkey parse_mixed
  have hparse := parse_bar (parse_bar hmap parse_null) parse_mixed
  simp only [String.reduceAppend] at hparse
  obtain ⟨found, hfound, hnested, hdropped, hlength, -⟩ := normalizeText_loses_mixed_only hparse
  exact ⟨hparse, found, hfound, hnested, hdropped, hlength _ rfl⟩

end Expr

end TypeAnnotation
