import Mathlib.Data.Char
import Mathlib.Data.String.Basic

/-! # Letters, digits and signs

The letters and digits of ASCII, told apart from other characters by their codes, the bytes that texts
take, and a sign split off what follows it.
-/

namespace University.Text

variable {c : Char} {cs : List Char}

theorem toLower_of_isDigit (h : c.isDigit = true) : c.toLower = c := by
  unfold Char.toLower
  rw [dif_neg]
  grind [Char.isDigit]

/-- No letter or digit has a larger code than `z`. -/
theorem toNat_lt_of_isAlphanum (h : c.isAlphanum = true) : c.toNat < 128 := by
  have low : c.val ≤ 'z'.val := by
    rcases Bool.or_eq_true_iff.mp h with letter | digit
    · rcases Bool.or_eq_true_iff.mp letter with upper | lower
      · exact UInt32.le_trans (of_decide_eq_true upper).2 (by decide)
      · exact of_decide_eq_true (Bool.and_eq_true_iff.mp lower).2
    · exact UInt32.le_trans (of_decide_eq_true (Bool.and_eq_true_iff.mp digit).2) (by decide)
  exact Nat.lt_of_le_of_lt low (by decide)

/-! ## Bytes -/

theorem utf8Size_of_ascii (h : c.toNat < 128) : c.utf8Size = 1 := by
  rw [Char.utf8Size_eq_one_iff, UInt32.le_iff_toNat_le]
  exact Nat.lt_succ_iff.mp h

theorem length_le_utf8Len (cs : List Char) : cs.length ≤ String.utf8Len cs := by
  induction cs with
  | nil => exact Nat.le_refl 0
  | cons c cs ih =>
      have := c.utf8Size_pos
      simp only [List.length_cons, String.utf8Len_cons]
      omega

theorem utf8Len_of_ascii (h : ∀ c ∈ cs, c.toNat < 128) : String.utf8Len cs = cs.length := by
  induction cs with
  | nil => rfl
  | cons c cs ih =>
      rw [List.forall_mem_cons] at h
      rw [String.utf8Len_cons, ih h.2, utf8Size_of_ascii h.1, List.length_cons]

theorem ascii_of_digits (h : ∀ c ∈ cs, c.isDigit = true) : ∀ c ∈ cs, c.toNat < 128 :=
  fun c hc => toNat_lt_of_isAlphanum (by simp [Char.isAlphanum, h c hc])

theorem utf8ByteSize_of_ascii {s : String} (h : ∀ c ∈ s.toList, c.toNat < 128) :
    s.utf8ByteSize = s.toList.length := by
  rw [← String.utf8Len_toList, utf8Len_of_ascii h]

/-! ## Signs -/

/-- A digit is no sign. -/
theorem ne_sign_of_isDigit (h : c.isDigit = true) : c ≠ '-' ∧ c ≠ '+' := by
  constructor
  · rintro rfl
    exact absurd h (by decide)
  · rintro rfl
    exact absurd h (by decide)

/-- Splits off a sign; whether it is a minus. -/
def splitSign : List Char → Bool × List Char
  | '-' :: cs => (true, cs)
  | '+' :: cs => (false, cs)
  | cs => (false, cs)

theorem splitSign_of_ne (h : ∀ c ∈ cs.head?, c ≠ '-' ∧ c ≠ '+') : splitSign cs = (false, cs) := by
  unfold splitSign
  split
  · exact absurd rfl (h _ rfl).1
  · exact absurd rfl (h _ rfl).2
  · rfl

theorem splitSign_cases (cs : List Char) :
    (∃ ds, cs = '-' :: ds ∧ splitSign cs = (true, ds)) ∨
      (∃ ds, cs = '+' :: ds ∧ splitSign cs = (false, ds)) ∨ splitSign cs = (false, cs) := by
  unfold splitSign
  split
  · exact .inl ⟨_, rfl, rfl⟩
  · exact .inr (.inl ⟨_, rfl, rfl⟩)
  · exact .inr (.inr rfl)

end University.Text
