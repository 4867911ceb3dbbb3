import Mathlib.Data.Nat.Digits.Lemmas
import TypeAnnotation.Text.Quoted

/-! # Hexadecimal digits

The digits of a number, in either case, say which number it is.
-/
namespace TypeAnnotation.Text

def hexDigit? (c : Char) : Option Nat :=
  if '0' ≤ c ∧ c ≤ '9' then some (c.toNat - 48)
  else if 'a' ≤ c ∧ c ≤ 'f' then some (c.toNat - 87)
  else if 'A' ≤ c ∧ c ≤ 'F' then some (c.toNat - 55)
  else none

def hexNumber? (digits : List Char) : Option Nat :=
  digits.foldlM (fun n c => (hexDigit? c).map (16 * n + ·)) 0

theorem hexDigit?_digitChar {d : Nat} (h : d < 16) :
    hexDigit? d.digitChar = some d ∧ hexDigit? d.digitChar.toUpper = some d := by
  revert d
  decide

/-- Digits are read one after another, the last one for itself. -/
theorem hexNumber?_concat (digits : List Char) (c : Char) :
    hexNumber? (digits ++ [c]) =
      (hexNumber? digits).bind fun n => (hexDigit? c).map (16 * n + ·) := by
  simp [hexNumber?, List.foldlM_append]

section
variable {f : Char → Char} (hf : ∀ d < 16, hexDigit? (f d.digitChar) = some d)
include hf

theorem hexNumber?_toDigits (n : Nat) : hexNumber? ((Nat.toDigits 16 n).map f) = some n := by
  induction n using Nat.strong_induction_on with
  | h n ih =>
    by_cases hn : n < 16
    · rw [Nat.toDigits_of_lt_base hn]
      simp [hexNumber?, hf n hn]
    · have hbase : 16 ≤ n := Nat.le_of_not_lt hn
      rw [Nat.toDigits_of_base_le (by decide) hbase, List.map_append, List.map_singleton,
        hexNumber?_concat, ih (n / 16) (by omega), Option.bind_some,
        hf (n % 16) (Nat.mod_lt n (by decide)), Option.map_some]
      congr 1
      omega

/-- Zeros in front do not count. -/
theorem hexNumber?_hexDigits (width n : Nat) :
    hexNumber? ((hexDigits width n).map f) = some n := by
  have hzero : hexDigit? (f '0') = some 0 := hf 0 (by decide)
  rw [hexDigits, List.map_append, List.map_replicate]
  induction width - (Nat.toDigits 16 n).length with
  | zero => exact hexNumber?_toDigits hf n
  | succ k ih =>
    rw [List.replicate_succ, List.cons_append, hexNumber?, List.foldlM_cons, hzero]
    exact ih

end

theorem hexNumber?_lower (width n : Nat) : hexNumber? (hexDigits width n) = some n := by
  have h := hexNumber?_hexDigits (f := id) (fun _ hd => (hexDigit?_digitChar hd).1) width n
  rwa [List.map_id] at h

theorem hexNumber?_upper (width n : Nat) :
    hexNumber? ((hexDigits width n).map Char.toUpper) = some n :=
  hexNumber?_hexDigits (fun _ hd => (hexDigit?_digitChar hd).2) width n

/-- As many digits as the width says, if the number has no more. -/
theorem length_hexDigits {width n : Nat} (hw : 0 < width) (hn : n < 16 ^ width) :
    (hexDigits width n).length = width := by
  have hlength := (Nat.length_toDigits_le_iff (b := 16) (by decide) hw).mpr hn
  simp only [hexDigits, List.length_append, List.length_replicate]
  omega

end TypeAnnotation.Text
