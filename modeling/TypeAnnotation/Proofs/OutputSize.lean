import Mathlib.Algebra.Ring.Nat
import TypeAnnotation.Proofs.Composition
import TypeAnnotation.Proofs.WellFormed

/-! # How much an annotation is normalized to

An annotation has at most as many descriptors as characters, those in slots counted at every depth.
A bracket pair makes two, the array and its keys, and a name or a container makes one. The key type
that is assumed for a container has two descriptors, so that it never fills a slot.
-/
namespace TypeAnnotation
open Token Grammar

/-! ## Counting descriptors -/

namespace Descriptor

mutual

/-- The number of descriptors in a descriptor, itself and those in its slots at every depth. -/
def size : Descriptor → Nat
  | ⟨_, _, _, _, key, value⟩ => 1 + slotSize key + slotSize value

def slotSize : Option Descriptor → Nat
  | none => 0
  | some d => d.size

end

def totalSize (ds : List Descriptor) : Nat := (ds.map size).sum

theorem size_eq (d : Descriptor) : d.size = 1 + slotSize d.key + slotSize d.value := by
  cases d
  rw [size]

@[simp] theorem slotSize_none : slotSize none = 0 := by rw [slotSize]

@[simp] theorem slotSize_some (d : Descriptor) : slotSize (some d) = d.size := by rw [slotSize]

@[simp] theorem totalSize_nil : totalSize [] = 0 := rfl

@[simp] theorem totalSize_cons (d : Descriptor) (ds : List Descriptor) :
    totalSize (d :: ds) = d.size + totalSize ds := rfl

theorem totalSize_toList (found : Option Descriptor) : totalSize found.toList = slotSize found := by
  cases found <;> simp

@[simp] theorem size_ofName (flag : Bool) (name : String) : (ofName flag name).size = 1 := by
  simp [size_eq, ofName]

@[simp] theorem size_anyArray (flag : Bool) : (anyArray flag).size = 1 := by
  simp [size_eq, anyArray]

@[simp] theorem size_arrayOf (flag : Bool) (d : Descriptor) :
    (arrayOf flag d).size = d.size + 2 := by
  have hint : size { kind := .int } = 1 := by simp [size_eq]
  rw [size_eq, arrayOf, slotSize_some, slotSize_some, hint]
  omega

theorem slotSize_ofReversedName?_le (cs : List Char) (flag : Bool) :
    slotSize (ofReversedName? cs flag) ≤ cs.length := by
  have hpos : ∀ {reversed : List Char},
      Name.canonical (String.ofList reversed.reverse) ∉ ["", "mixed"] → 0 < reversed.length := by
    intro reversed htold
    refine List.length_pos_iff.mpr ?_
    rintro rfl
    exact htold (by decide)
  fun_induction ofReversedName? cs flag with
  | case1 element flag h => simp
  | case2 element flag h ih =>
    cases hd : ofReversedName? element flag with
    | none => simp
    | some d => simpa [hd] using ih
  | case3 => simp
  | case4 reversed flag hpair name htold =>
    rw [slotSize_some, size_anyArray]
    exact hpos htold
  | case5 reversed flag hpair name htold =>
    rw [slotSize_some, size_ofName]
    exact hpos htold

/-- A name has no more descriptors than characters. -/
theorem slotSize_ofName?_le (name : String) (flag : Bool) :
    slotSize (ofName? name flag) ≤ name.length := by
  have hle := slotSize_ofReversedName?_le name.toList.reverse flag
  rwa [List.length_reverse, String.length_toList] at hle

theorem GainsNullThrough.size_eq {d d' : Descriptor} (h : GainsNullThrough d d') :
    d'.size = d.size := by
  induction h with
  | plain h hd hd' => rw [Descriptor.size_eq, Descriptor.size_eq, h.key, hd, hd']
  | element h hd hd' hv ih =>
    rw [Descriptor.size_eq, Descriptor.size_eq, h.key, hd, hd', slotSize_some, slotSize_some, ih]

/-- A null beside a name makes nothing more of it. -/
theorem slotSize_ofName?_true (name : String) :
    slotSize (ofName? name true) = slotSize (ofName? name false) := by
  have hrel : Option.Rel GainsNullThrough (ofName? name false) (ofName? name true) :=
    gainsNullThrough_ofReversedName? name.toList.reverse
  generalize ofName? name false = found at hrel ⊢
  generalize ofName? name true = found' at hrel ⊢
  cases hrel with
  | none => rfl
  | some h => rw [slotSize_some, slotSize_some, h.size_eq]

end Descriptor

theorem Slot.slotSize_fill_le (slot : Slot) (n : String) (found : List Descriptor) :
    Descriptor.slotSize (slot.fill n found).value ≤ Descriptor.totalSize found := by
  match found with
  | [] | [_] | _ :: _ :: _ => simp [Slot.fill]

/-! ## Counting in an expression -/

namespace Expr
open Descriptor

mutual

/-- How many descriptors an expression has at most. The key type that is assumed for a container
counts for nothing. -/
def bound : Expr → Nat
  | named name => slotSize (ofName? name false)
  | null => 1
  | union alternatives => boundAll alternatives
  | generic _ key value => 1 + (if key = defaultKey then 0 else key.bound) + value.bound
  | foreign _ => 0

def boundAll : List Expr → Nat
  | [] => 0
  | e :: rest => e.bound + boundAll rest

end

theorem boundAll_append (es fs : List Expr) : boundAll (es ++ fs) = boundAll es + boundAll fs := by
  induction es with
  | nil => simp [boundAll]
  | cons e es ih =>
    rw [List.cons_append, boundAll, boundAll, ih]
    omega

theorem boundAll_alternatives (e : Expr) : boundAll e.alternatives = e.bound := by
  cases e <;> simp [alternatives, boundAll, bound]

theorem bound_ofAlternatives (es : List Expr) : (ofAlternatives es).bound = boundAll es := by
  match es with
  | [] | [_] | _ :: _ :: _ => simp [ofAlternatives, bound, boundAll]

theorem bound_arrays_le (e : Expr) (depth : Nat) :
    (e.arrays depth).bound ≤ e.bound + 2 * depth := by
  induction depth with
  | zero => exact Nat.le_refl _
  | succ depth ih =>
    have hint : slotSize (ofName? "int" false) = 1 := by decide
    have hkey : named "int" ≠ defaultKey := nofun
    rw [arrays, arrayOf, bound, if_neg hkey, bound, hint]
    omega

theorem totalSize_describeEach_le {es : List Expr} (nullable : Bool)
    (h : ∀ e ∈ es, slotSize (e.describe nullable).value ≤ e.bound) :
    totalSize (describeEach nullable es) ≤ boundAll es := by
  induction es with
  | nil => simp [boundAll]
  | cons e es ih =>
    obtain ⟨he, hes⟩ := List.forall_mem_cons.mp h
    have hrest := ih hes
    rw [boundAll]
    cases hn : e.isNull with
    | true =>
      have hskip : describeEach nullable (e :: es) = describeEach nullable es := by
        simp [describeEach, withoutNulls, hn]
      rw [hskip]
      omega
    | false =>
      have hsplit := describeEach_append nullable [e] es
      rw [List.singleton_append, describeEach_singleton hn] at hsplit
      rw [hsplit, totalSize, List.map_append, List.sum_append, ← totalSize, ← totalSize,
        totalSize_toList]
      omega

/-- The bound holds for an expression by itself and as an alternative beside others. -/
theorem size_le_bound (e : Expr) :
    totalSize e.normalize.value ≤ e.bound ∧
      ∀ nullable, slotSize (e.describe nullable).value ≤ e.bound := by
  induction e with
  | named name =>
    refine ⟨?_, fun nullable => ?_⟩
    · rw [normalize, Logged.value_pure, totalSize_toList, bound]
    · rw [describe, Logged.value_pure, bound]
      cases nullable with
      | false => exact Nat.le_refl _
      | true => exact Nat.le_of_eq (slotSize_ofName?_true name)
  | null =>
    have hnull : ∀ nullable, slotSize (ofName? "null" nullable) = 1 := by decide
    refine ⟨?_, fun nullable => ?_⟩
    · rw [normalize, Logged.value_pure, totalSize_toList, hnull, bound]
    · rw [describe, Logged.value_pure, hnull, bound]
  | union es ih =>
    refine ⟨?_, fun nullable => Nat.zero_le _⟩
    rw [value_normalize_union, bound]
    exact totalSize_describeEach_le _ fun e he => (ih e he).2 _
  | generic n key value ihk ihv =>
    have hdescribe : ∀ nullable,
        slotSize ((generic n key value).describe nullable).value ≤ (generic n key value).bound := by
      intro nullable
      have hkey : slotSize (Slot.key.fill n key.normalize.value).value ≤
          if key = defaultKey then 0 else key.bound := by
        split
        · rename_i hdefault
          rw [hdefault]
          exact Nat.le_refl 0
        · exact (Slot.key.slotSize_fill_le n _).trans ihk.1
      have hvalue := (Slot.value.slotSize_fill_le n value.normalize.value).trans ihv.1
      have hsize : slotSize ((generic n key value).describe nullable).value =
          1 + slotSize (Slot.key.fill n key.normalize.value).value +
            slotSize (Slot.value.fill n value.normalize.value).value := Descriptor.size_eq _
      rw [hsize, bound]
      omega
    refine ⟨?_, hdescribe⟩
    rw [normalize_eq_describe rfl, Logged.value_map, totalSize_toList]
    exact hdescribe _
  | foreign text => exact ⟨Nat.zero_le _, fun _ => Nat.zero_le _⟩

end Expr

/-! ## Counting characters -/

namespace Lexeme

def letters (w : List Lexeme) : Nat := (w.map (·.value.length)).sum

theorem letters_cons (l : Lexeme) (w : List Lexeme) :
    letters (l :: w) = l.value.length + letters w := rfl

theorem letters_append (v w : List Lexeme) : letters (v ++ w) = letters v + letters w := by
  simp [letters]

theorem letters_brackets (depth : Nat) : letters (List.replicate depth brackets) = 2 * depth := by
  induction depth with
  | zero => rfl
  | succ depth ih =>
    have hpair : brackets.value.length = 2 := by decide
    rw [List.replicate_succ, letters_cons, ih, hpair]
    omega

theorem length_value_of_ofMark? {c : Char} {l : Lexeme} (h : ofMark? c = some l) :
    l.value.length = 1 := by
  unfold ofMark? at h
  split at h <;> cases h <;> decide

end Lexeme

open Lexeme

theorem Spells.letters_le {cs : List Char} {w : List Lexeme} (h : Spells cs w) :
    letters w ≤ cs.length := by
  induction h with
  | nil => exact Nat.le_refl 0
  | blank hc h ih => exact Nat.le_succ_of_le ih
  | brackets h ih =>
    have hpair : Lexeme.brackets.value.length = 2 := by decide
    rw [letters_cons, List.length_cons, List.length_cons]
    omega
  | @mark c l cs w hl h ih =>
    have hmark := length_value_of_ofMark? hl
    rw [letters_cons, List.length_cons]
    omega
  | @name n cs w hn he h ih =>
    rw [letters_cons, Lexeme.value, String.length_ofList, List.length_append]
    omega

theorem length_bracketed (n : String) (depth : Nat) :
    (Expr.bracketed n depth).length = n.length + 2 * depth := by
  induction depth with
  | zero => rfl
  | succ depth ih =>
    have hpair : "[]".length = 2 := by decide
    rw [Expr.bracketed, String.length_append, ih]
    omega

/-! ## Both counts of an annotation -/

namespace Grammar

mutual

theorem Term.bound_le : ∀ {w : List Lexeme} {e : Expr}, Term w e → e.bound ≤ letters w
  | _, _, .nullable h => by
    have hterm := h.bound_le
    have hmark : Lexeme.question.value.length = 1 := by decide
    rw [Expr.bound, Expr.boundAll_append, Expr.boundAll_alternatives, Expr.boundAll, Expr.bound,
      Expr.boundAll, letters_cons]
    omega
  | _, _, .group h depth => by
    have hes := h.boundAll_le
    refine (Expr.bound_arrays_le _ depth).trans ?_
    rw [Expr.bound_ofAlternatives, letters_cons, letters_append, letters_cons, letters_brackets]
    omega
  | _, _, .generic n h depth => by
    have hparameters := h.bound_le
    have hopen : Lexeme.openGeneric.value.length = 1 := by decide
    refine (Expr.bound_arrays_le _ depth).trans ?_
    rw [Expr.bound, letters_cons, letters_cons, letters_append, letters_cons, letters_brackets]
    omega
  | _, _, .null n hn => by
    have hne : n ≠ "" := by
      rintro rfl
      exact absurd hn (by decide)
    have hlength : 0 < n.length := Nat.pos_of_ne_zero (by simpa using hne)
    rw [Expr.bound, letters_cons, Lexeme.value]
    omega
  | _, _, .named n depth _ => by
    have hle := Descriptor.slotSize_ofName?_le (Expr.bracketed n depth) false
    rw [length_bracketed] at hle
    rwa [Expr.bound, letters_cons, letters_brackets, Lexeme.value]
  | _, _, .bare depth => by
    have hle := Descriptor.slotSize_ofName?_le (Expr.bracketed "" (depth + 1)) false
    have hempty : "".length = 0 := rfl
    rw [length_bracketed, hempty, Nat.zero_add] at hle
    rwa [Expr.bound, letters_brackets]

theorem Parameters.bound_le : ∀ {w : List Lexeme} {key value : Expr}, Parameters w key value →
    (if key = Expr.defaultKey then 0 else key.bound) + value.bound ≤ letters w
  | _, _, _, .value h => by
    rw [if_pos rfl, Nat.zero_add, Expr.bound_ofAlternatives]
    exact h.boundAll_le
  | _, _, _, .keyValue hk h => by
    have hkeys := hk.boundAll_le
    have hvalues := h.boundAll_le
    rw [← Expr.bound_ofAlternatives] at hkeys hvalues
    rw [letters_append, letters_cons]
    split <;> omega

theorem Alternatives.boundAll_le : ∀ {w : List Lexeme} {es : List Expr}, Alternatives w es →
    Expr.boundAll es ≤ letters w
  | _, _, .one h => by
    rw [Expr.boundAll_alternatives]
    exact h.bound_le
  | _, _, .more h hs => by
    have hterm := h.bound_le
    have hrest := hs.boundAll_le
    rw [Expr.boundAll_append, Expr.boundAll_alternatives, letters_append, letters_cons]
    omega

end

end Grammar

namespace Expr
open Descriptor

/-- The descriptors that an annotation is normalized to, with those in slots at every depth, are
never more than its characters. -/
theorem totalSize_normalizeText_le {text : String} {e : Expr} (h : parse text = .ok e) :
    ∃ found, normalizeText text = .ok found ∧ totalSize found.value ≤ text.length := by
  obtain ⟨es, ⟨w, hspells, hes⟩, rfl⟩ := (parse_eq_ok_iff_unionText text _).mp h
  refine ⟨_, normalizeText_of_parse h, ?_⟩
  calc
    totalSize (ofAlternatives es).normalize.value ≤ (ofAlternatives es).bound :=
      (size_le_bound _).1
    _ = boundAll es := bound_ofAlternatives es
    _ ≤ letters w := hes.boundAll_le
    _ ≤ text.toList.length := hspells.letters_le
    _ = text.length := String.length_toList

/-- An array of arrays has as many descriptors as characters. -/
theorem totalSize_normalizeText_le_nested :
    parse "a[][]" = .ok (named "a[][]") ∧ ∃ found, normalizeText "a[][]" = .ok found ∧
      totalSize found.value ≤ "a[][]".length ∧ totalSize found.value = "a[][]".length := by
  have hname : IsName "a" := (isName_iff _).mpr (by decide)
  have hparse : parse "a[][]" = .ok (named "a[][]") :=
    parse_typeName (isTypeName_bracketed (.inl hname) nofun : IsTypeName (bracketed "a" 2))
  obtain ⟨found, hfound, hle⟩ := totalSize_normalizeText_le hparse
  refine ⟨hparse, found, hfound, hle, ?_⟩
  rw [normalizeText_of_parse hparse] at hfound
  obtain rfl := Except.ok.inj hfound
  decide

end Expr

end TypeAnnotation
