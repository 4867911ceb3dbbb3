import Mathlib.Data.List.Perm.Basic
import TypeAnnotation.Proofs.Losses

/-! # What the log accounts for

A normalization comes to some of the expressions within an expression: to the alternatives of a
union, unless they are unions themselves, and to what the slots of a container hold. Each note is of
one loss at one of these, and each such loss is noted once. What is in a union within a union is
never looked at.
-/
namespace TypeAnnotation

namespace Expr

mutual

/-- The expressions that a normalization comes to, each as often as it does. -/
def visited : Expr → List Expr
  | union alternatives => union alternatives :: visitedAmong alternatives
  | generic name key value => generic name key value :: (key.visited ++ value.visited)
  | named name => [named name]
  | null => [null]
  | foreign text => [foreign text]

def visitedAmong : List Expr → List Expr
  | [] => []
  | e :: rest => (if e.isNull || e.isUnion then [] else e.visited) ++ visitedAmong rest

end

/-- What is lost of an alternative that is no null: its descriptor, if there is none, and what a
union within the union holds. -/
def alternativeLosses (nullable : Bool) (whole e : Expr) : List Note :=
  (if (e.describe nullable).value = none then [.dropped e whole] else []) ++
    if e.isUnion then [.nested e] else []

def slotLosses (slot : Slot) (container : String) (e : Expr) : List Note :=
  if e.normalize.value.length = 1 then []
  else [.unknown slot container e.normalize.value.length]

def losses (nullable : Bool) : Expr → List Note
  | union alternatives =>
    (withoutNulls alternatives).flatMap (alternativeLosses nullable (union alternatives))
  | generic name key value => slotLosses .key name key ++ slotLosses .value name value
  | _ => []

theorem visitedAmong_eq_flatMap (es : List Expr) :
    visitedAmong es =
      (withoutNulls es).flatMap fun e => if e.isUnion then [] else e.visited := by
  induction es with
  | nil => rfl
  | cons e es ih =>
    rw [withoutNulls] at ih
    rw [visitedAmong, withoutNulls, List.filter_cons, ih]
    cases e.isNull <;> simp

/-- Whether there is a descriptor does not depend on nulls beside the expression. -/
theorem describe_eq_none_congr (e : Expr) (flag flag' : Bool) :
    (e.describe flag).value = none ↔ (e.describe flag').value = none := by
  cases e with
  | named name =>
    have hnone := Descriptor.ofName?_eq_none_iff name
    exact (hnone flag).trans (hnone flag').symm
  | null =>
    have hnone := Descriptor.ofName?_eq_none_iff "null"
    exact (hnone flag).trans (hnone flag').symm
  | union | foreign => exact Iff.rfl
  | generic => exact iff_of_false nofun nofun

theorem alternativeLosses_congr (flag flag' : Bool) (whole e : Expr) :
    alternativeLosses flag whole e = alternativeLosses flag' whole e := by
  simp only [alternativeLosses, describe_eq_none_congr e flag flag']

/-- On the way to a descriptor the same notes are made as on the way to the list of it. -/
theorem notes_describe {e : Expr} (h : e.isUnion = false) (flag : Bool) :
    (e.describe flag).notes = e.normalize.notes := by
  cases e with
  | union => cases h
  | named | null | generic | foreign => rfl

theorem notes_normalize_generic (n : String) (key value : Expr) :
    (generic n key value).normalize.notes.Perm
      (slotLosses .key n key ++ slotLosses .value n value ++
        (key.normalize.notes ++ value.normalize.notes)) := by
  have hkey : (Slot.key.fill n key.normalize.value).notes = slotLosses .key n key :=
    Slot.notes_fill .key n _
  have hvalue : (Slot.value.fill n value.normalize.value).notes = slotLosses .value n value :=
    Slot.notes_fill .value n _
  have hnotes : (generic n key value).normalize.notes =
      key.normalize.notes ++ (slotLosses .key n key ++
        (value.normalize.notes ++ (slotLosses .value n value ++ []))) := by
    rw [← hkey, ← hvalue]
    rfl
  rw [hnotes, List.perm_iff_count]
  intro note
  simp only [List.count_append, List.count_nil]
  omega

/-- The notes on an alternative are those of its own losses and, unless it is a union, those on what
is in it. -/
theorem notes_alternative (flag : Bool) (whole : Expr) {e : Expr} {inside : List Note}
    (h : e.normalize.notes.Perm inside) :
    List.Perm
      ((e.describe flag).notes ++ if (e.describe flag).value = none then [.dropped e whole] else [])
      (alternativeLosses flag whole e ++ if e.isUnion then [] else inside) := by
  cases hu : e.isUnion with
  | true =>
    cases e with
    | union es => exact List.Perm.swap _ _ _
    | named | null | generic | foreign => cases hu
  | false =>
    rw [notes_describe hu, alternativeLosses, hu]
    simp only [Bool.false_eq_true, if_false, List.append_nil]
    exact List.perm_append_comm.trans (h.append_left _)

/-- The log holds the losses at all that is visited, each as often as it occurs. -/
theorem notes_perm_losses (e : Expr) (nullable : Bool) :
    e.normalize.notes.Perm (e.visited.flatMap (losses nullable)) := by
  induction e with
  | named | null | foreign => exact List.Perm.refl _
  | union es ih =>
    let own := alternativeLosses nullable (union es)
    let inner (e : Expr) := if e.isUnion then [] else e.visited.flatMap (losses nullable)
    have hinner :
        (visitedAmong es).flatMap (losses nullable) = (withoutNulls es).flatMap inner := by
      rw [visitedAmong_eq_flatMap, List.flatMap_assoc]
      refine List.flatMap_congr fun e _ => ?_
      dsimp only [inner]
      split <;> rfl
    have hnotes : (union es).normalize.notes.Perm
        ((withoutNulls es).flatMap fun e => own e ++ inner e) := by
      rw [normalize, notes_describeAll]
      refine List.Perm.flatMap_left _ fun e he => ?_
      have halternative :=
        notes_alternative (es.any isNull) (union es) (ih e (mem_withoutNulls.mp he).1)
      rwa [alternativeLosses_congr _ nullable] at halternative
    rw [visited, List.flatMap_cons, losses, hinner]
    exact hnotes.trans (List.flatMap_append_perm _ own inner).symm
  | generic n key value ihk ihv =>
    rw [visited, List.flatMap_cons, List.flatMap_append, losses]
    exact (notes_normalize_generic n key value).trans ((ihk.append ihv).append_left _)

/-! ## When nothing is lost -/

theorem isNull_eq_false_iff (e : Expr) : e.isNull = false ↔ e ≠ null := by
  cases e <;> simp [isNull]

theorem alternativeLosses_eq_nil_iff (nullable : Bool) (whole e : Expr) :
    alternativeLosses nullable whole e = [] ↔ ∃ d, (e.describe nullable).value = some d := by
  rw [← Option.ne_none_iff_exists', alternativeLosses]
  constructor
  · intro h hnone
    rw [if_pos hnone] at h
    cases h
  · intro h
    have hunion : e.isUnion = false := by
      cases e with
      | union => exact absurd rfl h
      | named | null | generic | foreign => rfl
    rw [if_neg h, hunion]
    rfl

theorem losses_union_eq_nil_iff (nullable : Bool) (es : List Expr) :
    losses nullable (union es) = [] ↔
      ∀ e ∈ es, e ≠ null → ∃ d, (e.describe nullable).value = some d := by
  rw [losses, List.flatMap_eq_nil_iff]
  simp only [mem_withoutNulls, isNull_eq_false_iff, alternativeLosses_eq_nil_iff, and_imp]

theorem slotLosses_eq_nil_iff (slot : Slot) (n : String) (e : Expr) :
    slotLosses slot n e = [] ↔ (slot.fill n e.normalize.value).value.isSome := by
  rw [slotLosses]
  match e.normalize.value with
  | [] => exact iff_of_false nofun nofun
  | [d] => exact iff_of_true rfl rfl
  | _ :: _ :: _ => exact iff_of_false (by simp) nofun

theorem losses_generic_eq_nil_iff (nullable : Bool) (n : String) (key value : Expr) :
    losses nullable (generic n key value) = [] ↔
      ∃ d, ((generic n key value).describe nullable).value = some d ∧ d.key.isSome ∧
        d.value.isSome := by
  rw [losses, List.append_eq_nil_iff, slotLosses_eq_nil_iff, slotLosses_eq_nil_iff]
  constructor
  · intro h
    exact ⟨_, rfl, h⟩
  · rintro ⟨d, hd, h⟩
    rw [← Option.some.inj hd] at h
    exact h

/-- The log of a normalization is, but for the order, what is lost at the expressions that it comes
to: each alternative that is no null and has no descriptor, each union within a union, and each slot
that is not filled. It is empty exactly if each alternative but the nulls has a descriptor and each
slot is filled. -/
theorem notes_account_for_losses (e : Expr) :
    (∀ nullable, e.normalize.notes.Perm (e.visited.flatMap (losses nullable))) ∧
    (e.normalize.notes = [] ↔
      (∀ es, union es ∈ e.visited → ∀ a ∈ es, a ≠ null →
        ∀ nullable, ∃ d, (a.describe nullable).value = some d) ∧
      ∀ n key value, generic n key value ∈ e.visited →
        ∀ nullable, ∃ d, ((generic n key value).describe nullable).value = some d ∧
          d.key.isSome ∧ d.value.isSome) := by
  refine ⟨notes_perm_losses e, ?_⟩
  have hnil : ∀ nullable, e.normalize.notes = [] ↔ ∀ p ∈ e.visited, losses nullable p = [] := by
    intro nullable
    have hperm := notes_perm_losses e nullable
    rw [← List.flatMap_eq_nil_iff]
    constructor
    · intro h
      exact (h ▸ hperm.symm).eq_nil
    · intro h
      exact (h ▸ hperm).eq_nil
  constructor
  · intro h
    refine ⟨fun es hes a ha hnull nullable => ?_, fun n key value hg nullable => ?_⟩
    · have hes := (hnil nullable).mp h _ hes
      exact (losses_union_eq_nil_iff nullable es).mp hes a ha hnull
    · have hg := (hnil nullable).mp h _ hg
      exact (losses_generic_eq_nil_iff nullable n key value).mp hg
  · rintro ⟨hunions, hgenerics⟩
    refine (hnil false).mpr fun p hp => ?_
    cases p with
    | union es =>
      refine (losses_union_eq_nil_iff false es).mpr fun a ha hnull => ?_
      exact hunions es hp a ha hnull false
    | generic n key value =>
      exact (losses_generic_eq_nil_iff false n key value).mpr (hgenerics n key value hp false)
    | named | null | foreign => rfl

/-- What is in the inner union is not looked at, what is in the slot is. -/
example :
    let inner := union [named "mixed", generic "Box" (union []) (union [])]
    let slot := union [named "int", named "mixed", null, named "bool"]
    let e := union [inner, generic "Map" (named "string") slot]
    e.visited = [e, generic "Map" (named "string") slot, named "string", slot, named "int",
        named "mixed", named "bool"] ∧
      e.normalize.notes = [.nested inner, .dropped inner e, .dropped (named "mixed") slot,
        .unknown .value "Map" 2] := by decide

end Expr

end TypeAnnotation
