import TypeAnnotation.Proofs.Losses

/-! # Where class names come from

The names in an expression are names of the annotation that it was read from, but for those of the
key type and the containers that the parser puts in. These are names of kinds. So every class in a
descriptor, at whatever depth, is a name of the annotation.
-/
namespace TypeAnnotation
open Lexeme Token Grammar

/-! ## Names in an expression -/

namespace Expr

def insertedNames : List String := ["array", "int", "string"]

theorem exists_kind_of_inserted {n : String} (h : n ∈ insertedNames) : ∃ kind : Kind, kind.name = n := by
  simp only [insertedNames, List.mem_cons, List.not_mem_nil, or_false] at h
  rcases h with rfl | rfl | rfl
  · exact ⟨.array, rfl⟩
  · exact ⟨.int, rfl⟩
  · exact ⟨.string, rfl⟩

/-- The names in the expression are names of the row or inserted ones. The name of a container has
its angle bracket in the row right after it. -/
inductive Written (w : List Lexeme) : Expr → Prop
  | name {n : String} (hn : .name n ∈ w) (depth : Nat) : Written w (named (bracketed n depth))
  | bare (depth : Nat) : Written w (named (bracketed "" depth))
  | inserted {n : String} (hn : n ∈ insertedNames) : Written w (named n)
  | null : Written w null
  | union {es : List Expr} (hes : ∀ e ∈ es, Written w e) : Written w (union es)
  | generic {n : String} {key value : Expr}
    (hn : [.name n, openGeneric] <:+: w ∨ n ∈ insertedNames) (hk : Written w key)
    (hv : Written w value) : Written w (generic n key value)

namespace Written
variable {v w : List Lexeme} {e : Expr} {es fs : List Expr}

theorem mono (h : Written v e) (hvw : v <:+: w) : Written w e := by
  induction h with
  | name hn depth => exact .name (hvw.subset hn) depth
  | bare depth => exact .bare depth
  | inserted hn => exact .inserted hn
  | null => exact .null
  | union hes ih => exact .union ih
  | generic hn hk hv ihk ihv => exact .generic (hn.imp_left fun hn => hn.trans hvw) ihk ihv

theorem arrays (h : Written w e) (depth : Nat) : Written w (e.arrays depth) := by
  induction depth with
  | zero => exact h
  | succ depth ih => exact .generic (.inr (by decide)) (.inserted (by decide)) ih

theorem defaultKey : Written w Expr.defaultKey := by
  refine .union fun e he => ?_
  rcases List.mem_pair.mp he with rfl | rfl
  · exact .inserted (by decide)
  · exact .inserted (by decide)

theorem alternatives (h : Written w e) : ∀ a ∈ e.alternatives, Written w a := by
  cases h with
  | union hes => exact hes
  | name hn depth => exact fun a ha => List.mem_singleton.mp ha ▸ .name hn depth
  | bare depth => exact fun a ha => List.mem_singleton.mp ha ▸ .bare depth
  | inserted hn => exact fun a ha => List.mem_singleton.mp ha ▸ .inserted hn
  | null => exact fun a ha => List.mem_singleton.mp ha ▸ .null
  | generic hn hk hv => exact fun a ha => List.mem_singleton.mp ha ▸ .generic hn hk hv

theorem ofAlternatives (h : ∀ e ∈ es, Written w e) : Written w (ofAlternatives es) := by
  match es with
  | [] => exact .union h
  | [e] => exact h e List.mem_cons_self
  | _ :: _ :: _ => exact .union h

end Written

end Expr

namespace Grammar

theorem infix_cons {l : Lexeme} (w : List Lexeme) : w <:+: l :: w :=
  (List.suffix_cons l w).isInfix

theorem infix_append_left (v : List Lexeme) {l : Lexeme} {w : List Lexeme} : v <:+: v ++ l :: w :=
  (List.prefix_append v (l :: w)).isInfix

theorem infix_append_right (v : List Lexeme) {l : Lexeme} {w : List Lexeme} : w <:+: v ++ l :: w :=
  (infix_cons w).trans (List.suffix_append v (l :: w)).isInfix

mutual

/-- What a term stands for is written in it. -/
theorem Term.written : ∀ {w : List Lexeme} {e : Expr}, Term w e → Expr.Written w e
  | _, _, .nullable h => by
    refine .union fun a ha => ?_
    rcases List.mem_append.mp ha with ha | ha
    · exact (h.written.alternatives a ha).mono (infix_cons _)
    · exact List.mem_singleton.mp ha ▸ .null
  | _, _, .group h depth => by
    refine (Expr.Written.ofAlternatives fun e he => ?_).arrays depth
    exact (h.written e he).mono ((infix_append_left _).trans (infix_cons _))
  | _, _, .generic n (w := w) h depth => by
    have hinside : w <:+: name n :: openGeneric :: (w ++ closeGeneric :: List.replicate depth brackets) :=
      (infix_append_left w).trans ((infix_cons _).trans (infix_cons _))
    have hparameters := h.written
    refine Expr.Written.arrays (.generic (.inl ?_) ?_ ?_) depth
    · exact List.prefix_append [name n, openGeneric] _ |>.isInfix
    · exact hparameters.1.mono hinside
    · exact hparameters.2.mono hinside
  | _, _, .null _ _ => .null
  | _, _, .named n depth _ => .name List.mem_cons_self depth
  | _, _, .bare depth => .bare (depth + 1)

/-- What parameters stand for is written in them. -/
theorem Parameters.written : ∀ {w : List Lexeme} {key value : Expr}, Parameters w key value →
    Expr.Written w key ∧ Expr.Written w value
  | _, _, _, .value h => ⟨.defaultKey, .ofAlternatives h.written⟩
  | _, _, _, .keyValue hk h =>
    ⟨.ofAlternatives fun e he => (hk.written e he).mono (infix_append_left _),
      .ofAlternatives fun e he => (h.written e he).mono (infix_append_right _)⟩

/-- What alternatives stand for is written in them. -/
theorem Alternatives.written : ∀ {w : List Lexeme} {es : List Expr}, Alternatives w es →
    ∀ e ∈ es, Expr.Written w e
  | _, _, .one h => h.written.alternatives
  | _, _, .more h hs => fun e he =>
    (List.mem_append.mp he).elim
      (fun he => (h.written.alternatives e he).mono (infix_append_left _))
      fun he => (hs.written e he).mono (infix_append_right _)

end

theorem Derives.written {w : List Lexeme} {e : Expr} (h : Derives w e) : Expr.Written w e := by
  obtain ⟨es, hes, rfl⟩ := h
  exact .ofAlternatives hes.written

end Grammar

/-! ## Classes in a descriptor -/

structure NamesClass (n c : String) : Prop where
  ne_kind : ∀ kind : Kind, kind.name ≠ n
  unqualified : n = "\\" ++ c ∨ n = c ∧ n.toList.head? ≠ some '\\'

theorem Name.eq_or_eq_unqualified (n : String) :
    n = "\\" ++ unqualified n ∨ n = unqualified n ∧ n.toList.head? ≠ some '\\' := by
  unfold unqualified
  split
  · rename_i rest hn
    refine .inl (String.toList_inj.mp ?_)
    simp [hn]
  · rename_i hn
    refine .inr ⟨rfl, fun hhead => ?_⟩
    obtain ⟨rest, hrest⟩ := List.head?_eq_some_iff.mp hhead
    exact hn rest hrest

theorem Name.namesClass_of_classify {n c : String} (h : (classify n).2 = some c) :
    NamesClass n c := by
  rw [classify] at h
  cases hk : Kind.ofName? n with
  | some kind =>
    rw [hk] at h
    cases h
  | none =>
    rw [hk] at h
    obtain rfl := Option.some.inj h
    exact ⟨Kind.ofName?_eq_none_iff.mp hk, eq_or_eq_unqualified n⟩

namespace Descriptor
variable {P : String → Prop}

/-- Every class of the descriptor, at any depth, is one of these. -/
def ClassesAmong (P : String → Prop) (d : Descriptor) : Prop :=
  ∀ p, d.Part p → ∀ c ∈ p.className, P c

namespace ClassesAmong

theorem mk {d : Descriptor} (hclass : ∀ c ∈ d.className, P c)
    (hkey : ∀ k ∈ d.key, ClassesAmong P k) (hvalue : ∀ v ∈ d.value, ClassesAmong P v) :
    ClassesAmong P d :=
  forall_part hclass hkey hvalue

theorem ofName {flag : Bool} {n : String} (h : ∀ c, NamesClass n c → P c) :
    ClassesAmong P (ofName flag n) :=
  mk (fun c hc => h c (Name.namesClass_of_classify hc)) nofun nofun

theorem anyArray (flag : Bool) : ClassesAmong P (anyArray flag) := mk nofun nofun nofun

theorem arrayOf {flag : Bool} {d : Descriptor} (h : ClassesAmong P d) :
    ClassesAmong P (arrayOf flag d) :=
  mk nofun (fun _ hk => Option.some.inj hk ▸ mk nofun nofun nofun)
    fun _ hv => Option.some.inj hv ▸ h

end ClassesAmong

/-- Other spellings of kinds are no classes, and neither is what tells no type. -/
theorem classesAmong_ofName?_plain {n : String} (hn : ']' ∉ n.toList) (flag : Bool)
    (h : n ∉ ["", "mixed"] → ∀ c, NamesClass n c → P c) :
    ∀ d ∈ ofName? n flag, ClassesAmong P d := by
  rw [ofName?_of_not_mem hn]
  intro d hd
  split at hd
  · cases hd
  split at hd
  · exact Option.some.inj hd ▸ .anyArray flag
  rename_i hempty _
  obtain rfl := Option.some.inj hd
  rw [Name.canonical_mem_untold_iff] at hempty
  refine .ofName fun c hc => ?_
  rcases Name.canonical_eq_self_or_mem n with hself | hsynonym
  · rw [hself] at hc
    exact h hempty c hc
  · have hkinds : ∀ synonym ∈ Name.synonyms, ∃ kind ∈ Kind.all, kind.name = synonym.2 := by decide
    obtain ⟨kind, -, hkind⟩ := hkinds _ hsynonym
    exact absurd hkind (hc.ne_kind kind)

/-- Bracket pairs after a name leave its class as it is. -/
theorem classesAmong_ofName? {n : String} (hn : ']' ∉ n.toList) (flag : Bool)
    (h : n ∉ ["", "mixed"] → ∀ c, NamesClass n c → P c) (depth : Nat) :
    ∀ d ∈ ofName? (Expr.bracketed n depth) flag, ClassesAmong P d := by
  induction depth with
  | zero => exact classesAmong_ofName?_plain hn flag h
  | succ depth ih =>
    intro d hd
    rw [Expr.bracketed, ofName?_append_brackets] at hd
    split at hd
    · exact Option.some.inj hd ▸ .anyArray flag
    · obtain ⟨element, helement, rfl⟩ := Option.map_eq_some_iff.mp hd
      exact .arrayOf (ih element helement)

end Descriptor

/-! ## Classes in what is written -/

/-- A name of the row that stands for the class. The name `mixed` stands for none unless it is that
of a container. -/
def Grammar.GivesClass (w : List Lexeme) (c : String) : Prop :=
  ∃ before n after, w = before ++ name n :: after ∧ NamesClass n c ∧
    (n = "mixed" → after.head? = some openGeneric)

namespace Expr
open Descriptor
variable {w : List Lexeme} {e : Expr}

structure ClassesAmong (P : String → Prop) (e : Expr) : Prop where
  normalize : ∀ d ∈ e.normalize.value, d.ClassesAmong P
  describe : ∀ flag, ∀ d ∈ (e.describe flag).value, d.ClassesAmong P

namespace ClassesAmong
variable {P : String → Prop}

/-- What is no union is normalized by describing it. -/
theorem of_describe (hu : e.isUnion = false)
    (h : ∀ flag, ∀ d ∈ (e.describe flag).value, d.ClassesAmong P) : ClassesAmong P e := by
  refine ⟨fun d hd => h e.isNull d ?_, h⟩
  rwa [normalize_eq_describe hu, Logged.value_map, Option.mem_toList] at hd

theorem named {n : String} (h : ∀ flag, ∀ d ∈ ofName? n flag, d.ClassesAmong P) :
    ClassesAmong P (named n) := of_describe rfl h

theorem union {es : List Expr} (h : ∀ e ∈ es, ClassesAmong P e) : ClassesAmong P (union es) := by
  refine ⟨fun d hd => ?_, fun _ => nofun⟩
  rw [value_normalize_union, mem_describeEach] at hd
  obtain ⟨e, he, -, hd⟩ := hd
  exact (h e he).describe _ d hd

theorem generic {n : String} {key value : Expr} (hn : ∀ c, NamesClass n c → P c)
    (hk : ClassesAmong P key) (hv : ClassesAmong P value) : ClassesAmong P (generic n key value) := by
  refine of_describe rfl fun flag d hd => ?_
  obtain rfl := Option.some.inj hd
  refine .mk (fun c hc => hn c (Name.namesClass_of_classify hc)) (fun k hfill => ?_) fun v hfill => ?_
  · exact hk.normalize k (by simp [Slot.eq_singleton_of_fill hfill])
  · exact hv.normalize v (by simp [Slot.eq_singleton_of_fill hfill])

end ClassesAmong

theorem not_namesClass_of_inserted {n : String} (hn : n ∈ insertedNames) (c : String) :
    ¬ NamesClass n c := by
  intro h
  obtain ⟨kind, hkind⟩ := exists_kind_of_inserted hn
  exact h.ne_kind kind hkind

/-- A class comes from a name that is written, as inserted names are names of kinds. -/
theorem Written.classesAmong (h : Written w e) (hw : ∀ n, .name n ∈ w → ']' ∉ n.toList) :
    ClassesAmong (GivesClass w) e := by
  induction h with
  | @name n hn depth =>
    refine .named fun flag => classesAmong_ofName? (hw n hn) flag (fun hmixed c hc => ?_) depth
    obtain ⟨before, after, rfl⟩ := List.append_of_mem hn
    exact ⟨before, n, after, rfl, hc, fun hm => absurd (by simp [hm]) hmixed⟩
  | bare depth =>
    exact .named fun flag => classesAmong_ofName? (by decide) flag
      (fun hempty => absurd (by simp) hempty) depth
  | @inserted n hn =>
    have hplain : ']' ∉ n.toList := by
      revert n
      decide
    exact .named fun flag => classesAmong_ofName?_plain hplain flag
      fun _ c hc => absurd hc (not_namesClass_of_inserted hn c)
  | null =>
    exact .of_describe rfl fun flag => classesAmong_ofName?_plain (by decide) flag
      fun _ c hc => absurd rfl (hc.ne_kind .null)
  | union hes ih => exact .union ih
  | @generic n key value hn hk hv ihk ihv =>
    refine .generic (fun c hc => ?_) ihk ihv
    rcases hn with ⟨before, after, rfl⟩ | hn
    · refine ⟨before, n, openGeneric :: after, by simp, hc, fun _ => rfl⟩
    · exact absurd hc (not_namesClass_of_inserted hn c)

/-- A class consists of characters that stand in names. -/
theorem not_mem_of_namesClass {n c : String} (hn : NameChars n.toList) (h : NamesClass n c)
    {mark : Char} (hmark : continuesName mark = false) : mark ∉ c.toList := by
  intro hc
  have hmem : mark ∈ n.toList := by
    rcases h.unqualified with rfl | ⟨rfl, -⟩
    · rw [String.toList_append]
      exact List.mem_append_right _ hc
    · exact hc
  have hcontinues := hn.continuesName hmem
  rw [hmark] at hcontinues
  cases hcontinues

theorem spells_of_parse {text : String} {e : Expr} (h : parse text = .ok e) :
    ∃ w, Spells text.toList w ∧ Derives w e := by
  obtain ⟨tokens, hscan, hderives⟩ := (parse_eq_ok_iff text e).mp h
  exact ⟨_, spells_of_scanFrom ((scan_eq_ok_iff text tokens).mp hscan), hderives⟩

/-- What is no part of a name is no part of a class. -/
theorem not_mem_class_of_parse {text : String} {e : Expr} (h : parse text = .ok e) {mark : Char}
    (hmark : continuesName mark = false) :
    ∀ d ∈ e.normalize.value, d.ClassesAmong fun c => mark ∉ c.toList := by
  obtain ⟨w, hspells, hderives⟩ := spells_of_parse h
  have hplain : ∀ n, .name n ∈ w → ']' ∉ n.toList :=
    fun n hn => not_mem_of_nameChars (hspells.nameChars hn)
  intro d hd p hp c hc
  obtain ⟨before, n, after, hrow, hclass, -⟩ :=
    (hderives.written.classesAmong hplain).normalize d hd p hp c hc
  have hn : .name n ∈ w := by simp [hrow]
  exact not_mem_of_namesClass (hspells.nameChars hn) hclass hmark

/-- Every class in the descriptors of an annotation, at whatever depth, is a name token of it without
a namespace separator in front. The token is no name of a kind and none that the parser puts in, and
it is `mixed` only with an opening angle bracket after it. No class has a bracket or a mark in it. -/
theorem normalizeText_classes {text : String} {e : Expr} (h : parse text = .ok e) :
    ∃ tokens found, scan text = .ok tokens ∧ normalizeText text = .ok found ∧
      ∀ d ∈ found.value, ∀ p, d.Part p → ∀ c ∈ p.className,
        (∃ before n place after, tokens = before ++ ⟨.name n, place⟩ :: after ∧
          (n = "\\" ++ c ∨ n = c ∧ n.toList.head? ≠ some '\\') ∧
          (∀ kind : Kind, kind.name ≠ n) ∧ n ∉ insertedNames ∧
          (n = "mixed" → next after = some openGeneric)) ∧
        ∀ mark ∈ ['[', ']', '|', '?', '(', ')', '<', '>', ','], mark ∉ c.toList := by
  have hmarks : ∀ mark ∈ ['[', ']', '|', '?', '(', ')', '<', '>', ','], continuesName mark = false := by
    simp only [List.forall_mem_cons, List.not_mem_nil, false_implies, implies_true, and_true]
    decide
  obtain ⟨tokens, hscan, hderives⟩ := (parse_eq_ok_iff text e).mp h
  have hspells := (spells_iff _ _).mpr ⟨tokens, (scan_eq_ok_iff text tokens).mp hscan, rfl⟩
  have hbrackets : ∀ n, .name n ∈ tokens.map lexeme → ']' ∉ n.toList :=
    fun n hn => not_mem_of_nameChars (hspells.nameChars hn)
  have hclasses := (hderives.written.classesAmong hbrackets).normalize
  refine ⟨tokens, e.normalize, hscan, by rw [normalizeText, h]; rfl, fun d hd p hp c hc => ?_⟩
  obtain ⟨v, n, w, htokens, hnames, hmixed⟩ := hclasses d hd p hp c hc
  have hname : .name n ∈ tokens.map lexeme := by simp [htokens]
  obtain ⟨before, after, place, rfl, -, rfl⟩ := exists_mark htokens
  refine ⟨⟨before, n, place, after, rfl, hnames.unqualified, hnames.ne_kind, ?_, hmixed⟩, ?_⟩
  · exact fun hn => not_namesClass_of_inserted hn c hnames
  · exact fun mark hmark =>
      not_mem_of_namesClass (hspells.nameChars hname) hnames (hmarks mark hmark)

/-- Classes in the slots of a container that is called `mixed`, with and without a separator. -/
theorem normalizeText_classes_mixed :
    parse "mixed<\\App\\Id,Foo[]>|mixed" =
        .ok (union [generic "mixed" (named "\\App\\Id") (named "Foo[]"), named "mixed"]) ∧
      ∃ tokens found, scan "mixed<\\App\\Id,Foo[]>|mixed" = .ok tokens ∧
        normalizeText "mixed<\\App\\Id,Foo[]>|mixed" = .ok found ∧
        found.value.map Descriptor.render = ["mixed<App\\Id, array<int, Foo>>"] ∧
        ∀ d ∈ found.value, ∀ p, d.Part p → ∀ c ∈ p.className,
          (∃ before n place after, tokens = before ++ ⟨.name n, place⟩ :: after ∧
            (n = "\\" ++ c ∨ n = c ∧ n.toList.head? ≠ some '\\') ∧
            (∀ kind : Kind, kind.name ≠ n) ∧ n ∉ insertedNames ∧
            (n = "mixed" → next after = some openGeneric)) ∧
          ∀ mark ∈ ['[', ']', '|', '?', '(', ')', '<', '>', ','], mark ∉ c.toList := by
  have hmixed : IsName "mixed" := (isName_iff _).mpr (by decide)
  have hid : IsName "\\App\\Id" := (isName_iff _).mpr (by decide)
  have hkey := parse_of_termText (.plain hid (by decide)) (.of_isName hid (by decide))
  have hparse := parse_bar (parse_generic hmixed hkey parse_foos) parse_mixed
  simp only [String.reduceAppend] at hparse
  obtain ⟨tokens, found, hscan, hfound, hclasses⟩ := normalizeText_classes hparse
  have hvalue := hfound
  rw [normalizeText, hparse] at hvalue
  obtain rfl := Except.ok.inj hvalue
  exact ⟨hparse, tokens, _, hscan, hfound, by decide, hclasses⟩

end Expr

end TypeAnnotation
