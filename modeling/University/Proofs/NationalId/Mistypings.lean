import Mathlib.Data.Nat.ModEq
import University.Proofs.NationalId

/-! # Typing errors in national identification numbers

There are eleven remainders and ten digits: the remainders 0 and 10 have the same check digit. And the
weight at place 2 is eleven, so what stands there does not count. Every other error of one digit, or
of two neighbours that change places, is noticed unless it leads from one of these remainders to the
other.
-/

namespace University.NationalId

open Decimal (digitValue)

variable {i n m : Nat} {a b c : Char} {cs cs' : List Char} {s : String}

/-! ## Remainders -/

/-- The remainders of two sums are those with the same check digit. -/
def Folded (n m : Nat) : Prop := n % 11 = 0 ∧ m % 11 = 10 ∨ n % 11 = 10 ∧ m % 11 = 0

instance (n m : Nat) : Decidable (Folded n m) := inferInstanceAs (Decidable (_ ∨ _))

theorem checkDigit_eq_iff : checkDigit cs = checkDigit cs' ↔
    weightedSum cs % 11 = weightedSum cs' % 11 ∨ Folded (weightedSum cs) (weightedSum cs') := by
  simp only [checkDigit, Folded]
  omega

theorem checksum?_eq_iff {body body' : String} (h : IsBody body.toList) (h' : IsBody body'.toList) :
    checksum? body = checksum? body' ↔ checkDigit body.toList = checkDigit body'.toList := by
  simp [checksum?_eq, h, h']

/-- The weights other than eleven tell digits apart. -/
theorem eq_of_weighted {d e w : Nat} (hw : Nat.Coprime 11 w) (hd : d < 10) (he : e < 10)
    (hsum : n + w * d = m + w * e) (hmod : n % 11 = m % 11) : d = e := by
  have sums : n + w * d ≡ m + w * e [MOD 11] := by rw [hsum]
  have products : w * d ≡ w * e [MOD 11] := Nat.ModEq.add_left_cancel hmod sums
  have digits : d ≡ e [MOD 11] := Nat.ModEq.cancel_left_of_coprime hw products
  exact digits.eq_of_lt_of_lt (by omega) (by omega)

theorem coprime_weight (hi : i < bodyLength) (h : i ≠ 2) : Nat.Coprime 11 (13 - i) := by
  have weights : ∀ i < 12, i ≠ 2 → Nat.Coprime 11 (13 - i) := by decide
  exact weights i hi h

theorem digitValue_injective (ha : a.isDigit = true) (hb : b.isDigit = true)
    (h : digitValue a = digitValue b) : a = b := by
  have := toNat_of_isDigit ha
  have := toNat_of_isDigit hb
  apply Char.toNat_inj.mp
  simp [digitValue] at h
  omega

/-! ## Other characters -/

theorem digitAt_of_getElem? (h : cs[i]? = some c) : digitAt cs i = digitValue c := by
  simp [digitAt, h]

theorem digitAt_set_self (h : i < cs.length) : digitAt (cs.set i c) i = digitValue c := by
  simp [digitAt, h]

theorem digitAt_set_of_ne {j : Nat} (h : j ≠ i) : digitAt (cs.set i c) j = digitAt cs j := by
  simp [digitAt, List.getElem?_set_ne h.symm]

/-- A digit at another place changes the sum by its weight. -/
theorem weightedSum_set (hi : i < bodyLength) (h : i < cs.length) (c : Char) :
    weightedSum (cs.set i c) + (13 - i) * digitAt cs i =
      weightedSum cs + (13 - i) * digitValue c := by
  have inside : i ∈ Finset.range bodyLength := Finset.mem_range.mpr hi
  have others : ∑ j ∈ (Finset.range bodyLength).erase i, (13 - j) * digitAt (cs.set i c) j =
      ∑ j ∈ (Finset.range bodyLength).erase i, (13 - j) * digitAt cs j := by
    apply Finset.sum_congr rfl
    intro j hj
    rw [digitAt_set_of_ne (Finset.ne_of_mem_erase hj)]
  rw [weightedSum, weightedSum, ← Finset.add_sum_erase _ _ inside,
    ← Finset.add_sum_erase _ (fun j => (13 - j) * digitAt cs j) inside, others, digitAt_set_self h]
  omega

/-- Behind the twelfth place nothing counts. -/
theorem weightedSum_set_of_le (hi : bodyLength ≤ i) (c : Char) :
    weightedSum (cs.set i c) = weightedSum cs := by
  apply Finset.sum_congr rfl
  intro j hj
  have before := Finset.mem_range.mp hj
  rw [digitAt_set_of_ne (by omega)]

/-- Where two neighbours change places, the sum changes by the difference of the two. -/
theorem weightedSum_swap (hi : i + 1 < bodyLength) (ha : cs[i]? = some a) (hb : cs[i + 1]? = some b) :
    weightedSum ((cs.set i b).set (i + 1) a) + digitValue a = weightedSum cs + digitValue b := by
  obtain ⟨inside, -⟩ := List.getElem?_eq_some_iff.mp hb
  have first := weightedSum_set (by omega) (by omega : i < cs.length) b
  have second := weightedSum_set hi (by simpa using inside : i + 1 < (cs.set i b).length) a
  rw [digitAt_of_getElem? ha] at first
  rw [digitAt_set_of_ne (by omega), digitAt_of_getElem? hb] at second
  obtain ⟨w, hw⟩ : ∃ w, 13 - i = w + 1 := ⟨12 - i, by simp only [bodyLength] at hi; omega⟩
  have hw' : 13 - (i + 1) = w := by omega
  rw [hw, Nat.succ_mul, Nat.succ_mul] at first
  rw [hw'] at second
  omega

theorem digits_set (h : ∀ d ∈ cs, d.isDigit = true) (hc : c.isDigit = true) :
    ∀ d ∈ cs.set i c, d.isDigit = true := by
  intro d hd
  rcases List.mem_or_eq_of_mem_set hd with old | rfl
  · exact h d old
  · exact hc

/-! ## Errors that are not noticed -/

namespace IsNumber

theorem exists_digit (h : IsNumber cs) (hi : i ≤ bodyLength) :
    ∃ d, cs[i]? = some d ∧ d.isDigit = true := by
  have inside : i < cs.length := by
    rw [h.length_eq]
    omega
  exact ⟨cs[i], List.getElem?_eq_getElem inside, h.digits _ (List.getElem_mem inside)⟩

/-- The check digit does not notice other digits before it exactly if they have the same one. -/
theorem iff_of_same_check (h : IsNumber cs) (hlength : cs'.length = cs.length)
    (hdigits : ∀ d ∈ cs', d.isDigit = true)
    (hcheck : digitAt cs' bodyLength = digitAt cs bodyLength) :
    IsNumber cs' ↔
      weightedSum cs % 11 = weightedSum cs' % 11 ∨ Folded (weightedSum cs) (weightedSum cs') := by
  rw [← checkDigit_eq_iff, ← h.check_eq, ← hcheck]
  constructor
  · exact fun h' => h'.check_eq
  · exact fun same => ⟨hlength.trans h.length_eq, hdigits, same⟩

theorem not_set_check (h : IsNumber cs) (hne : cs[bodyLength]? ≠ some c) :
    ¬IsNumber (cs.set bodyLength c) := by
  intro h'
  obtain ⟨d, hd, digit⟩ := h.exists_digit (Nat.le_refl bodyLength)
  have inside : bodyLength < cs.length := by
    rw [h.length_eq]
    omega
  have digit' : c.isDigit = true := h'.digits c (List.mem_set inside c)
  have same : digitValue c = digitValue d := by
    rw [← digitAt_set_self inside, h'.check_eq, checkDigit, weightedSum_set_of_le (Nat.le_refl _),
      ← checkDigit, ← h.check_eq, digitAt_of_getElem? hd]
  exact hne (by rw [hd, digitValue_injective digit' digit same])

/-- Where another digit is put before the check digit, its weight or the remainders may hide it. -/
theorem set_iff (h : IsNumber cs) (hi : i < bodyLength) (hc : c.isDigit = true)
    (hne : cs[i]? ≠ some c) :
    IsNumber (cs.set i c) ↔ i = 2 ∨ Folded (weightedSum cs) (weightedSum (cs.set i c)) := by
  obtain ⟨d, hd, digit⟩ := h.exists_digit (Nat.le_of_lt hi)
  obtain ⟨inside, -⟩ := List.getElem?_eq_some_iff.mp hd
  have sums := weightedSum_set hi inside c
  rw [digitAt_of_getElem? hd] at sums
  have check : digitAt (cs.set i c) bodyLength = digitAt cs bodyLength :=
    digitAt_set_of_ne (by omega)
  rw [h.iff_of_same_check List.length_set (digits_set h.digits hc) check]
  apply or_congr_left
  constructor
  · intro same
    by_contra counted
    have values := eq_of_weighted (coprime_weight hi counted) (digitValue_lt digit)
      (digitValue_lt hc) sums same.symm
    exact hne (by rw [hd, digitValue_injective digit hc values])
  · rintro rfl
    omega

/-- Where two neighbours before the check digit change places, only the remainders may hide it. -/
theorem swap_iff (h : IsNumber cs) (hi : i + 1 < bodyLength) (ha : cs[i]? = some a)
    (hb : cs[i + 1]? = some b) (hne : a ≠ b) :
    IsNumber ((cs.set i b).set (i + 1) a) ↔
      Folded (weightedSum cs) (weightedSum ((cs.set i b).set (i + 1) a)) := by
  have digit : a.isDigit = true := h.digits a (List.mem_of_getElem? ha)
  have digit' : b.isDigit = true := h.digits b (List.mem_of_getElem? hb)
  have sums := weightedSum_swap hi ha hb
  have check : digitAt ((cs.set i b).set (i + 1) a) bodyLength = digitAt cs bodyLength := by
    rw [digitAt_set_of_ne (by omega), digitAt_set_of_ne (by omega)]
  rw [h.iff_of_same_check (by simp) (digits_set (digits_set h.digits digit') digit) check]
  apply or_iff_right
  intro same
  have values : digitValue a = digitValue b := by
    have := digitValue_lt digit
    have := digitValue_lt digit'
    omega
  exact hne (digitValue_injective digit digit' values)

end IsNumber

/-- The text with another character at a place. -/
def replaceAt (s : String) (i : Nat) (c : Char) : String := String.ofList (s.toList.set i c)

/-- Two bodies have the same check digit exactly if their sums leave the same remainder, or one leaves 0
and the other 10. So a check digit that is changed is noticed; another digit before it is noticed
unless it is at place 2 or leads from one of these remainders to the other; and so are neighbours that
change places, whatever the place. -/
theorem mistyped_valid_iff :
    (∀ body body' : String, IsBody body.toList → IsBody body'.toList →
      (checksum? body = checksum? body' ↔
        weightedSum body.toList % 11 = weightedSum body'.toList % 11 ∨
          Folded (weightedSum body.toList) (weightedSum body'.toList))) ∧
      ∀ s, isValid s = true →
        (∀ c, s.toList[12]? ≠ some c → isValid (replaceAt s 12 c) = false) ∧
          (∀ i < 12, ∀ c, c.isDigit = true → s.toList[i]? ≠ some c →
            (isValid (replaceAt s i c) = true ↔
              i = 2 ∨ Folded (weightedSum s.toList) (weightedSum (replaceAt s i c).toList))) ∧
          ∀ i < 11, ∀ a b, s.toList[i]? = some a → s.toList[i + 1]? = some b → a ≠ b →
            (isValid (replaceAt (replaceAt s i b) (i + 1) a) = true ↔
              Folded (weightedSum s.toList)
                (weightedSum (replaceAt (replaceAt s i b) (i + 1) a).toList)) := by
  constructor
  · intro body body' h h'
    rw [checksum?_eq_iff h h', checkDigit_eq_iff]
  · intro s valid
    have number := isValid_iff.mp valid
    refine ⟨?_, ?_, ?_⟩
    · intro c hne
      rw [Bool.eq_false_iff, Ne, isValid_iff, replaceAt, String.toList_ofList]
      exact number.not_set_check hne
    · intro i hi c hc hne
      rw [isValid_iff, replaceAt, String.toList_ofList]
      exact number.set_iff hi hc hne
    · intro i hi a b ha hb hne
      rw [isValid_iff, replaceAt, replaceAt, String.toList_ofList, String.toList_ofList]
      exact number.swap_iff (Nat.succ_lt_succ hi) ha hb hne

/-- A number whose sum leaves 0: each kind of error is hidden by another number like it. -/
theorem mistyped_valid_iff_hidden :
    isValid "0000000000761" = true ∧
      isValid (replaceAt "0000000000761" 12 '2') = false ∧
      isValid (replaceAt "0000000000761" 2 '9') = true ∧
      isValid (replaceAt "0000000000761" 11 '0') = true ∧
      isValid (replaceAt (replaceAt "0000000000761" 10 '6') 11 '7') = true := by
  have valid : isValid "0000000000761" = true := by decide +kernel
  obtain ⟨check, digit, swap⟩ := mistyped_valid_iff.2 "0000000000761" valid
  refine ⟨valid, check '2' (by decide), ?_, ?_, ?_⟩
  · exact (digit 2 (by decide) '9' rfl (by decide)).mpr (.inl rfl)
  · exact (digit 11 (by decide) '0' rfl (by decide)).mpr (.inr (by decide))
  · exact (swap 10 (by decide) '7' '6' rfl rfl (by decide)).mpr (by decide)

end University.NationalId
