import University.Decimal.Whole
import University.Proofs.Decimal.Padded

/-! # Which texts are whole numbers

A text is read as a number of a range exactly if it writes one: in decimal digits, which may have zeros
or one plus sign in front of them. So a padded number is read back as the number that was written.
-/

namespace University.Decimal

variable {most value n : Nat} {beyond : WholeError} {cs : List Char} {s : String}

/-- Digits are read as long as the whole number stays in the range. -/
theorem readUpTo_digits (hcs : ∀ c ∈ cs, c.isDigit = true)
    (hmost : Nat.ofDigitChars 10 cs value ≤ most) :
    readUpTo most beyond value cs = .ok (Nat.ofDigitChars 10 cs value) := by
  induction cs generalizing value with
  | nil => rfl
  | cons c cs ih =>
      have hc := hcs c (by simp)
      rw [Nat.ofDigitChars_cons] at hmost ⊢
      have below := Nat.le_trans (le_ofDigitChars _ cs) hmost
      simp only [readUpTo, hc, if_true, digitValue]
      exact (if_pos below).trans (ih (fun d hd => hcs d (List.mem_cons_of_mem _ hd)) hmost)

theorem readUpTo_eq_ok_iff (hvalue : value ≤ most) :
    readUpTo most beyond value cs = .ok n ↔
      (∀ c ∈ cs, c.isDigit = true) ∧ Nat.ofDigitChars 10 cs value = n ∧ n ≤ most := by
  constructor
  · intro read
    induction cs generalizing value with
    | nil =>
        cases read
        exact ⟨by simp, rfl, hvalue⟩
    | cons c cs ih =>
        simp only [readUpTo] at read
        split at read
        · rename_i digit
          split at read
          · rename_i fits
            obtain ⟨digits, made, within⟩ := ih fits read
            exact ⟨List.forall_mem_cons.mpr ⟨digit, digits⟩, made, within⟩
          · cases read
        · cases read
  · rintro ⟨digits, rfl, within⟩
    exact readUpTo_digits digits within

/-- Decimal digits that stand for a number. -/
structure DigitsOf (cs : List Char) (n : Nat) : Prop where
  ne_nil : cs ≠ []
  digits : ∀ c ∈ cs, c.isDigit = true
  value_eq : Nat.ofDigitChars 10 cs 0 = n

theorem DigitsOf.unique {n' : Nat} (h : DigitsOf cs n) (h' : DigitsOf cs n') : n = n' :=
  h.value_eq.symm.trans h'.value_eq

/-- A text of decimal digits, perhaps behind a plus sign. -/
def Writes (s : String) (n : Nat) : Prop :=
  DigitsOf s.toList n ∨ ∃ cs, s.toList = '+' :: cs ∧ DigitsOf cs n

theorem readSome_eq_ok_iff : readSome most beyond cs = .ok n ↔ DigitsOf cs n ∧ n ≤ most := by
  cases cs with
  | nil =>
      refine ⟨nofun, ?_⟩
      rintro ⟨empty, -⟩
      exact absurd rfl empty.ne_nil
  | cons c cs =>
      rw [readSome, readUpTo_eq_ok_iff (Nat.zero_le most)]
      · constructor
        · rintro ⟨digits, made, within⟩
          exact ⟨⟨List.cons_ne_nil _ _, digits, made⟩, within⟩
        · rintro ⟨written, within⟩
          exact ⟨written.digits, written.value_eq, within⟩
      · exact nofun

theorem readUnsigned_eq_ok_iff : readUnsigned most s = .ok n ↔ Writes s n ∧ n ≤ most := by
  have plus_no_digit {cs : List Char} : ¬DigitsOf ('+' :: cs) n :=
    fun written => absurd (written.digits '+' (by simp)) (by decide)
  unfold readUnsigned Writes
  split
  · rename_i text
    simp only [text, reduceCtorEq, false_and, exists_false, or_false, false_iff]
    rintro ⟨empty, -⟩
    exact empty.ne_nil rfl
  · rename_i cs text
    simp [text, plus_no_digit, readSome_eq_ok_iff]
  · rename_i unsigned
    have no_plus : ¬∃ cs, s.toList = '+' :: cs ∧ DigitsOf cs n := by
      rintro ⟨cs, text, -⟩
      exact unsigned cs text
    rw [readSome_eq_ok_iff, or_iff_left no_plus]

theorem digitsOf_padded (width n : Nat) : DigitsOf (padded width n).toList n where
  ne_nil := padded_ne_nil width n
  digits _ := isDigit_of_mem_padded
  value_eq := ofDigitChars_padded width n

theorem readUnsigned_padded {width : Nat} (h : n ≤ most) :
    readUnsigned most (padded width n) = .ok n :=
  readUnsigned_eq_ok_iff.mpr ⟨.inl (digitsOf_padded width n), h⟩

end University.Decimal
