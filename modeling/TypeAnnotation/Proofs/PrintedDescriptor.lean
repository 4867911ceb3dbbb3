import TypeAnnotation.Normalize
import TypeAnnotation.Proofs.Annotation
import TypeAnnotation.Proofs.NullName

/-! # Printed descriptors

A descriptor is printed as an annotation of the same type. If its fields agree with each other and
its class is told apart from every other name, normalizing what was printed gives it back.
-/
namespace TypeAnnotation
open Token

/-- The names of classes that mean nothing else. -/
structure IsClassName (n : String) : Prop where
  isName : IsName n
  unqualified : n.toList.head? ≠ some '\\'
  ne_kind : ∀ kind : Kind, kind.name ≠ n
  ne_synonym : ∀ synonym ∈ Name.synonyms, synonym.1 ≠ n
  ne_mixed : n ≠ "mixed"
  ne_null : Text.lower n ≠ "null"

namespace Descriptor

/-- Only objects have a class, only collections have slots, and an array is a collection even if
nothing is known of its slots. A null is nullable unless it has slots. -/
inductive Printable : Descriptor → Prop
  | mk {d : Descriptor} (hclass : ∀ n ∈ d.className, d.kind = .object ∧ IsClassName n)
    (hslots : d.key.isSome ∨ d.value.isSome → d.isCollection = true)
    (hbare : d.key = none → d.value = none → (d.isCollection = true ↔ d.kind = .array))
    (hnull : d.kind = .null → (d.nullable = true ↔ d.key = none ∧ d.value = none))
    (hkey : ∀ k ∈ d.key, Printable k) (hvalue : ∀ v ∈ d.value, Printable v) : Printable d

end Descriptor

/-! ## What a label means -/

/-- A name token that is read as a kind and the class, if it is one. -/
structure Means (n : String) (kind : Kind) (className : Option String) : Prop where
  isName : IsName n
  canonical : Name.canonical n = n
  ne_mixed : n ≠ "mixed"
  classify : Name.classify n = (kind, className)
  array_iff : n = "array" ↔ kind = .array
  null_iff : Text.lower n = "null" ↔ kind = .null

theorem Kind.means (kind : Kind) : Means kind.name kind none where
  isName := (isName_iff _).mpr (by cases kind <;> decide)
  canonical := by cases kind <;> rfl
  ne_mixed := by cases kind <;> decide
  classify := by rw [Name.classify, ofName?_name]
  array_iff := by cases kind <;> decide
  null_iff := by
    rw [← Expr.isNullName_iff]
    cases kind <;> decide

theorem Name.canonical_eq_self {n : String} (h : ∀ synonym ∈ synonyms, synonym.1 ≠ n) :
    canonical n = n := by
  have hnone : synonyms.lookup n = none := by
    rw [List.lookup_eq_none_iff]
    intro synonym hs
    simpa using (h synonym hs).symm
  rw [canonical, hnone]
  rfl

theorem Name.unqualified_eq_self {n : String} (h : n.toList.head? ≠ some '\\') :
    unqualified n = n := by
  unfold unqualified
  split
  · rename_i rest hn
    rw [hn] at h
    exact absurd rfl h
  · rfl

theorem IsClassName.means {n : String} (h : IsClassName n) : Means n .object (some n) where
  isName := h.isName
  canonical := Name.canonical_eq_self h.ne_synonym
  ne_mixed := h.ne_mixed
  classify := by
    rw [Name.classify, Kind.ofName?_eq_none_iff.mpr h.ne_kind, Name.unqualified_eq_self h.unqualified]
  array_iff := iff_of_false (h.ne_kind .array).symm nofun
  null_iff := iff_of_false h.ne_null nofun

namespace Descriptor

theorem means_label {kind : Kind} {className : Option String}
    (h : ∀ n ∈ className, kind = .object ∧ IsClassName n) :
    Means (label kind className) kind className := by
  cases className with
  | none => exact kind.means
  | some n =>
    obtain ⟨rfl, hn⟩ := h n rfl
    rw [label, if_neg hn.isName.ne_empty]
    exact hn.means

/-- A name token has no bracket pair at its end to be looked under. -/
theorem ofName?_eq {n : String} {kind : Kind} {className : Option String}
    (h : Means n kind className) (nullable : Bool) :
    ofName? n nullable =
      some { kind, nullable, className, isCollection := decide (kind = .array) } := by
  have hname := not_mem_of_nameChars ((isName_iff n).mp h.isName)
  have hempty := h.isName.ne_empty
  rw [ofName?_of_not_mem hname, h.canonical, if_neg (by simp [hempty, h.ne_mixed])]
  by_cases ha : kind = .array
  · obtain rfl := h.array_iff.mpr ha
    obtain ⟨rfl, rfl⟩ := Prod.mk.inj (h.classify.symm.trans (Kind.means .array).classify)
    rfl
  · rw [if_neg (mt h.array_iff.mp ha), decide_eq_false ha, ofName, h.classify]

end Descriptor

/-! ## Reading the text of one descriptor -/

/-- The text of a term and the descriptors that the term has. -/
def Tells (text : String) (found : List Descriptor) : Prop :=
  ∃ e, TermText text e ∧ Expr.ofAlternatives e.alternatives = e ∧ e.normalize.value = found

theorem tells_mixed : Tells "mixed" [] := by
  have hname : IsName "mixed" := (isName_iff _).mpr (by decide)
  exact ⟨_, .plain hname (by decide), rfl, rfl⟩

theorem Slot.value_fill (slot : Slot) (container : String) (d : Option Descriptor) :
    (slot.fill container d.toList).value = d := by
  cases d <;> rfl

/-- Beside a null there is one descriptor at most, and it is nullable. -/
theorem Expr.normalize_nullable {e : Expr} (h : e.isNull = false) :
    (union [e, null]).normalize.value = (e.describe true).value.toList := by
  simp only [normalize, describeAll, List.any_cons, h]
  cases hd : (e.describe true).value with
  | none => simp [hd, isNull]
  | some d => simp [hd, isNull]

/-- A question mark in front makes the descriptor nullable. -/
theorem tells_of_describe {t : String} {e : Expr} {d : Descriptor} {nullable : Bool}
    (ht : TermText t e) (hu : e.isUnion = false) (hn : e.isNull = false)
    (hd : (e.describe nullable).value = some d) :
    Tells ((if nullable then "?" else "") ++ t) [d] := by
  have halone := Expr.alternatives_of_not_isUnion hu
  cases nullable with
  | false =>
    refine ⟨e, by simpa using ht, by rw [halone]; rfl, ?_⟩
    rw [Expr.normalize_eq_describe hu, hn, Logged.value_map, hd]
    rfl
  | true =>
    refine ⟨_, ht.nullable, ?_, ?_⟩
    · rw [halone]
      rfl
    · rw [halone, List.singleton_append, Expr.normalize_nullable hn, hd]
      rfl

variable {n : String} {kind : Kind} {className : Option String}

theorem tells_null : Tells "null" [{ kind := .null, nullable := true }] := by
  have hnull := Descriptor.ofName?_eq (Kind.means .null) true
  exact ⟨.null, .null, rfl, congrArg Option.toList hnull⟩

theorem tells_name (h : Means n kind className) (hkind : kind ≠ .null) (nullable : Bool) :
    Tells ((if nullable then "?" else "") ++ n)
      [{ kind, nullable, className, isCollection := decide (kind = .array) }] := by
  have hterm := TermText.plain h.isName (mt h.null_iff.mp hkind)
  exact tells_of_describe hterm rfl rfl (Descriptor.ofName?_eq h nullable)

theorem tells_generic (h : Means n kind className) (nullable : Bool) {k v : String}
    {key value : Option Descriptor} (hk : Tells k key.toList) (hv : Tells v value.toList) :
    Tells ((if nullable then "?" else "") ++ (n ++ "<" ++ k ++ ", " ++ v ++ ">"))
      [{ kind, nullable, className, isCollection := true, key, value }] := by
  obtain ⟨ek, htk, hek, hk⟩ := hk
  obtain ⟨ev, htv, hev, hv⟩ := hv
  have hterm := TermText.generic h.isName (.one htk) (.one htv)
  rw [hek, hev] at hterm
  refine tells_of_describe hterm rfl rfl ?_
  simp [Expr.describe, Descriptor.collection, Descriptor.ofName, hk, hv, Slot.value_fill,
    h.classify]

namespace Descriptor

theorem tells_slot {slot : Option Descriptor} (h : ∀ d ∈ slot, Tells d.render [d]) :
    Tells (renderSlot slot) slot.toList := by
  cases slot with
  | none => exact tells_mixed
  | some d => exact h d rfl

theorem tells_bare (hclass : ∀ n ∈ className, kind = .object ∧ IsClassName n) {nullable : Bool}
    (hnull : kind = .null → nullable = true) :
    Tells (render ⟨kind, nullable, className, decide (kind = .array), none, none⟩)
      [⟨kind, nullable, className, decide (kind = .array), none, none⟩] := by
  by_cases hkind : kind = .null
  · subst hkind
    obtain rfl := hnull rfl
    obtain rfl : className = none :=
      Option.eq_none_iff_forall_not_mem.mpr fun n hn => nomatch (hclass n hn).1
    exact tells_null
  · simpa [render, hkind] using tells_name (means_label hclass) hkind nullable

/-- A null with slots is not nullable, so that nothing is lost when its mark is left out. -/
theorem tells_slots (hclass : ∀ n ∈ className, kind = .object ∧ IsClassName n) {nullable : Bool}
    (hnull : kind = .null → nullable = false) {key value : Option Descriptor}
    (hset : key.isSome ∨ value.isSome) (hkey : ∀ k ∈ key, Tells k.render [k])
    (hvalue : ∀ v ∈ value, Tells v.render [v]) :
    Tells (render ⟨kind, nullable, className, true, key, value⟩)
      [⟨kind, nullable, className, true, key, value⟩] := by
  have hmark : (nullable && kind != .null) = nullable := by
    cases nullable with
    | false => rfl
    | true => simpa using mt hnull (by decide)
  have htells := tells_generic (means_label hclass) nullable (tells_slot hkey) (tells_slot hvalue)
  rw [render, hmark]
  simpa [hset, String.append_assoc] using htells

theorem Printable.tells {d : Descriptor} (h : Printable d) : Tells d.render [d] := by
  induction h with
  | @mk d hclass hslots hbare hnull hkey hvalue ihk ihv =>
    obtain ⟨kind, nullable, className, isCollection, key, value⟩ := d
    dsimp only at hclass hslots hbare hnull ihk ihv
    by_cases hset : key.isSome ∨ value.isSome
    · obtain rfl := hslots hset
      refine tells_slots hclass (fun hkind => ?_) hset ihk ihv
      rw [← Bool.not_eq_true, hnull hkind]
      rintro ⟨rfl, rfl⟩
      simp at hset
    · obtain ⟨rfl, rfl⟩ : key = none ∧ value = none := by simpa using hset
      obtain rfl : isCollection = decide (kind = .array) :=
        Bool.eq_iff_iff.mpr (by simpa using hbare rfl rfl)
      exact tells_bare hclass fun hkind => (hnull hkind).mpr ⟨rfl, rfl⟩

end Descriptor

/-- What a printable descriptor is printed as is normalized to that descriptor and no other. -/
theorem normalizeText_render {d : Descriptor} (h : d.Printable) :
    ∃ notes, normalizeText d.render = .ok ⟨[d], notes⟩ := by
  obtain ⟨e, ht, he, hn⟩ := h.tells
  have hparse : Expr.parse d.render = .ok e :=
    (Expr.parse_eq_ok_iff_unionText d.render e).mpr ⟨_, .one ht, he.symm⟩
  refine ⟨e.normalize.notes, ?_⟩
  rw [normalizeText, hparse, ← hn]
  rfl

/-- An array that may be missing, with values of a class that has slots of its own. -/
theorem normalizeText_render_kits :
    let kit : Descriptor :=
      { kind := .object, nullable := true, className := some "Acme\\Kit", isCollection := true,
        key := some { kind := .string }, value := some { kind := .null, nullable := true } }
    let kits : Descriptor :=
      { kind := .array, nullable := true, isCollection := true, value := some kit }
    kits.render = "?array<mixed, ?Acme\\Kit<string, null>>" ∧ kits.Printable ∧
      ∃ notes, normalizeText kits.render = .ok ⟨[kits], notes⟩ := by
  intro kit kits
  have hname : IsClassName "Acme\\Kit" :=
    ⟨(isName_iff _).mpr (by decide), by decide, fun kind => by cases kind <;> decide, by decide,
      by decide, by decide⟩
  have hstring : Descriptor.Printable { kind := .string } :=
    .mk nofun nofun (by decide) nofun nofun nofun
  have hnull : Descriptor.Printable { kind := .null, nullable := true } :=
    .mk nofun nofun (by decide) (by decide) nofun nofun
  have hkit : kit.Printable := .mk
    (fun n hn => ⟨rfl, Option.some.inj hn ▸ hname⟩) (fun _ => rfl) nofun nofun
    (fun k hk => Option.some.inj hk ▸ hstring) (fun v hv => Option.some.inj hv ▸ hnull)
  have hkits : kits.Printable := .mk nofun (fun _ => rfl) nofun nofun nofun
    fun v hv => Option.some.inj hv ▸ hkit
  exact ⟨by decide, hkits, normalizeText_render hkits⟩

end TypeAnnotation
