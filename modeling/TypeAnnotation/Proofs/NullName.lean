import Mathlib.Data.List.Basic
import TypeAnnotation.Expr
import TypeAnnotation.Text.Lower

/-! # The name of null

The reader takes a name for null by the small letters of the Latin alphabet alone. In full lower
case this is the same: no other character has one of the letters of `null` as its small letter.
-/
namespace TypeAnnotation
open Text

namespace Text

def nullLetters : List Char := ['n', 'u', 'l']

/-- Capitals beyond the Latin alphabet have no small letter in it but `k`. -/
theorem lower_of_mem_capitalRuns : ∀ r ∈ capitalRuns,
    r.last < 128 ∨ 128 ≤ r.lower ∨ r.lower = 0x6b ∧ r.first = r.last := by
  decide +kernel

theorem lowerChar_of_lt : ∀ n < 128, lowerChar (Char.ofNat n) = [(Char.ofNat n).toLower] := by
  decide +kernel

theorem toNat_of_ofNat_mem {n : Nat} (h : Char.ofNat n ∈ nullLetters) :
    n ∈ nullLetters.map Char.toNat := by
  by_cases hn : n.isValidChar
  · have hc : (Char.ofNat n).toNat = n := by
      rw [Char.ofNat, dif_pos hn]
      rfl
    exact hc ▸ List.mem_map_of_mem h
  · have hc : Char.ofNat n = '\x00' := by
      rw [Char.ofNat, dif_neg hn]
      rfl
    rw [hc] at h
    exact absurd h (by decide)

theorem not_mem_of_le {c : Char} (h : 128 ≤ c.toNat) : c ∉ nullLetters := by
  intro hc
  simp only [nullLetters, List.mem_cons, List.not_mem_nil, or_false] at hc
  rcases hc with rfl | rfl | rfl <;> exact absurd h (by decide)

/-- The small letter of a character that is not one of the Latin alphabet. -/
theorem lowerChar_of_le {c : Char} (h : 128 ≤ c.toNat) :
    ∃ d ds, lowerChar c = d :: ds ∧ d ∉ nullLetters := by
  rw [lowerChar]
  by_cases hi : c = '\u0130'
  · exact ⟨'i', ['\u0307'], by simp [hi], by decide⟩
  · simp only [beq_iff_eq, hi, if_false]
    cases hr : capitalRuns.find? (·.has c.toNat) with
    | none =>
      exact ⟨c, [], rfl, not_mem_of_le h⟩
    | some r =>
      refine ⟨_, [], rfl, fun hc => ?_⟩
      have hhas : r.has c.toNat = true := by
        simpa using List.find?_some hr
      have hn := toNat_of_ofNat_mem hc
      simp only [CapitalRun.has, Bool.and_eq_true, decide_eq_true_eq] at hhas
      have hcodes : r.lower + (c.toNat - r.first) = 110 ∨ r.lower + (c.toNat - r.first) = 117 ∨
          r.lower + (c.toNat - r.first) = 108 := by simpa [nullLetters] using hn
      have := lower_of_mem_capitalRuns r (List.mem_of_find?_eq_some hr)
      omega

theorem toLower_of_le {c : Char} (h : 128 ≤ c.toNat) : c.toLower = c := by
  have hz : ¬ (c.val ≥ 'A'.val ∧ c.val ≤ 'Z'.val) := by
    rintro ⟨-, hz⟩
    have hz : c.toNat ≤ 90 := UInt32.le_iff_toNat_le.mp hz
    omega
  exact dif_neg hz

theorem cons_ne {d : Char} {ds es : List Char} (hd : d ∉ nullLetters)
    (h : ∀ e ∈ es, e ∈ nullLetters) : d :: ds ≠ es := by
  rintro rfl
  exact hd (h d List.mem_cons_self)

/-- As far as the letters of `null` go, lower case is that of the Latin alphabet. -/
theorem lowerAfter_eq_iff {cs ds : List Char} (h : ∀ d ∈ ds, d ∈ nullLetters) (cased : Bool) :
    lowerAfter cased cs = ds ↔ cs.map Char.toLower = ds := by
  fun_induction lowerAfter cased cs generalizing ds with
  | case1 => rfl
  | case2 cased rest ih =>
    have hsigma : ∀ b : Bool, (if b then 'ς' else 'σ') ∉ nullLetters := by decide
    have hcapital : Char.toLower 'Σ' ∉ nullLetters := by decide
    rw [List.map_cons]
    exact iff_of_false (cons_ne (hsigma _) h) (cons_ne hcapital h)
  | case3 cased c rest hc ih =>
    by_cases hn : c.toNat < 128
    · have hl : lowerChar c = [c.toLower] := by simpa using lowerChar_of_lt c.toNat hn
      rw [hl, List.map_cons, List.singleton_append]
      cases ds with
      | nil => simp
      | cons d ds =>
        rw [List.cons.injEq, List.cons.injEq, ih fun e he => h e (List.mem_cons_of_mem d he)]
    · obtain ⟨d, es, hl, hd⟩ := lowerChar_of_le (c := c) (by omega)
      have hsame : c.toLower ∉ nullLetters := by
        rw [toLower_of_le (by omega)]
        exact not_mem_of_le (by omega)
      rw [hl, List.map_cons, List.cons_append]
      exact iff_of_false (cons_ne hd h) (cons_ne hsame h)

end Text

theorem Expr.isNullName_iff (n : String) : isNullName n = true ↔ lower n = "null" := by
  have hnull : ∀ d ∈ "null".toList, d ∈ nullLetters := by
    intro d (hd : d ∈ ['n', 'u', 'l', 'l'])
    simpa [nullLetters] using hd
  rw [isNullName, beq_iff_eq, ← lowerAfter_eq_iff hnull false, lower]
  constructor
  · intro h
    rw [h, String.ofList_toList]
  · intro h
    rw [← h, String.toList_ofList]

end TypeAnnotation
