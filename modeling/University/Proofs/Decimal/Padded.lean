import Mathlib.Algebra.Group.Nat.Defs
import Mathlib.Logic.Function.Basic
import University.Decimal.Padded
import University.Proofs.Text.Ascii

/-! # What padded numbers stand for

Zeros in front of a number do not change what it stands for, so different numbers have different texts.
A number that does not need more digits than the width has exactly as many.
-/

namespace University.Decimal

variable {width n : Nat}

theorem toList_padded (width n : Nat) : (padded width n).toList =
    List.replicate (width - (Nat.toDigits 10 n).length) '0' ++ Nat.toDigits 10 n := by
  simp only [padded, String.toList_ofList]

theorem padded_ne_nil (width n : Nat) : (padded width n).toList ≠ [] := by
  rw [toList_padded]
  exact List.append_ne_nil_of_right_ne_nil _ Nat.toDigits_ne_nil

theorem ofDigitChars_padded (width n : Nat) :
    Nat.ofDigitChars 10 (padded width n).toList 0 = n := by
  rw [toList_padded, Nat.ofDigitChars_append, Nat.ofDigitChars_replicate_zero, Nat.mul_zero,
    Nat.ofDigitChars_ten_toDigits]

theorem le_ofDigitChars (value : Nat) (cs : List Char) : value ≤ Nat.ofDigitChars 10 cs value := by
  induction cs generalizing value with
  | nil => exact Nat.le_refl _
  | cons c cs ih =>
      rw [Nat.ofDigitChars_cons]
      exact Nat.le_trans (by omega) (ih _)

theorem toDigits_injective : Function.Injective (Nat.toDigits 10) := by
  intro m n same
  rw [← Nat.ofDigitChars_ten_toDigits (n := m), same, Nat.ofDigitChars_ten_toDigits]

theorem toList_toString (n : Nat) : (toString n).toList = Nat.toDigits 10 n :=
  String.toList_ofList

theorem toString_injective : Function.Injective (toString : Nat → String) := by
  intro m n same
  rw [← String.toList_inj, toList_toString, toList_toString] at same
  exact toDigits_injective same

theorem not_mem_toString {c : Char} (hc : c.isDigit = false) (n : Nat) : c ∉ (toString n).toList := by
  rw [toList_toString]
  intro there
  have digit := Nat.isDigit_of_mem_toDigits (by decide) (by decide) there
  rw [digit] at hc
  cases hc

theorem utf8ByteSize_toString_le (h : n < 10 ^ (width + 1)) :
    (toString n).utf8ByteSize ≤ width + 1 := by
  have digits : ∀ c ∈ Nat.toDigits 10 n, c.isDigit = true :=
    fun c hc => Nat.isDigit_of_mem_toDigits (by decide) (by decide) hc
  have ascii : ∀ c ∈ (toString n).toList, c.toNat < 128 := by
    rw [toList_toString]
    exact Text.ascii_of_digits digits
  rw [Text.utf8ByteSize_of_ascii ascii, toList_toString]
  exact (Nat.length_toDigits_le_iff (b := 10) (by decide) width.succ_pos).mpr h

theorem head?_toDigits_ne (h : 0 < n) : (Nat.toDigits 10 n).head? ≠ some '0' := by
  induction n using Nat.strongRecOn with
  | ind n ih =>
      by_cases small : n < 10
      · rw [Nat.toDigits_of_lt_base small]
        have nonzero : ∀ d < 10, 0 < d → [d.digitChar].head? ≠ some '0' := by decide
        exact nonzero n small h
      · have upper := ih (n / 10) (by omega) (by omega)
        rw [Nat.toDigits_of_base_le (by decide) (by omega)]
        cases digits_eq : Nat.toDigits 10 (n / 10) with
        | nil => exact absurd digits_eq Nat.toDigits_ne_nil
        | cons d ds =>
            rw [digits_eq] at upper
            exact upper

theorem padded_injective (width : Nat) : Function.Injective (padded width) := by
  intro m n same
  rw [← ofDigitChars_padded width m, same, ofDigitChars_padded]

theorem isDigit_of_mem_padded {c : Char} (h : c ∈ (padded width n).toList) : c.isDigit = true := by
  rw [toList_padded, List.mem_append] at h
  cases h with
  | inl zero =>
      rw [List.eq_of_mem_replicate zero]
      rfl
  | inr digit => exact Nat.isDigit_of_mem_toDigits (by decide) (by decide) digit

theorem length_padded (hwidth : 0 < width) (h : n < 10 ^ width) :
    (padded width n).toList.length = width := by
  have fits := (Nat.length_toDigits_le_iff (b := 10) (by decide) hwidth).mpr h
  rw [toList_padded, List.length_append, List.length_replicate]
  omega

end University.Decimal
