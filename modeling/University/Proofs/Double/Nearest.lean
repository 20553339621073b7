import University.Decimal.Literal
import University.Proofs.Double.Storage

/-! # The double nearest to a number in decimal

A number in decimal is read either by one product or quotient of two exact doubles, or by the product or
the quotient of its digits and a power of ten without any bound on their lengths. Each rounds the number
once, so that no double is closer than the one that is read, and infinity is read exactly from the limit
on.
-/

namespace University.Double

open Float.Model Float.Model.UnpackedFloat Float.Model.Format
open Decimal (nearest)

variable {m n : Nat} {e : Int} {x v : ℚ} {a : Accuracy} {s : Sign} {u : UnpackedFloat}

/-- A float to which a number is rounded, by some mantissa, exponent and accuracy that describe it. -/
def RoundOf (s : Sign) (v : ℚ) (u : UnpackedFloat) : Prop :=
  ∃ m e a x, Approximates m x a ∧ e ≤ target m e ∧ x * 2 ^ e = v ∧ u = roundWithAccuracy binary64 s m e a

section Operations

variable {m₁ m₂ : Nat} {e₁ e₂ : Int}

theorem roundOf_mul (h₁ : 0 < m₁) (h₂ : 0 < m₂) (normal : 2 ^ 52 ≤ m₁ * m₂) :
    RoundOf .positive ((m₁ * 2 ^ e₁) * (m₂ * 2 ^ e₂))
      (mul binary64 (.finite .positive m₁ e₁ h₁) (.finite .positive m₂ e₂ h₂)) := by
  refine ⟨m₁ * m₂, e₁ + e₂, .exact, (m₁ * m₂ : Nat), rfl, le_target_of_normal normal, ?_, rfl⟩
  rw [zpow_add₀ (by norm_num)]
  push_cast
  ring

theorem approximates_fraction (n : Nat) {d : Nat} (hd : 0 < d) :
    Approximates (n / d) ((n : ℚ) / d) (accuracyOfFraction (n % d) d) := by
  have parts : (n : ℚ) = d * (n / d : Nat) + (n % d : Nat) := by exact_mod_cast (Nat.div_add_mod n d).symm
  have positive : (0 : ℚ) < d := by exact_mod_cast hd
  have value : (n : ℚ) / d = (n / d : Nat) + (n % d : Nat) / d := by
    rw [parts, add_div, mul_div_cancel_left₀ _ positive.ne']
  have less : n % d < d := Nat.mod_lt n hd
  rw [value]
  generalize n / d = q
  generalize n % d = r at less
  unfold accuracyOfFraction
  split
  · rename_i none_left
    rw [none_left]
    simp [Approximates]
  · rename_i some_left
    have some_part : (0 : ℚ) < r / d := div_pos (by exact_mod_cast Nat.pos_of_ne_zero some_left) positive
    have no_step : (r : ℚ) / d < 1 := (div_lt_one positive).mpr (by exact_mod_cast less)
    cases order : compare (2 * r) d with
    | lt =>
        have : (2 * r : ℚ) < d := by exact_mod_cast Nat.compare_eq_lt.mp order
        have half : (r : ℚ) / d < 1 / 2 := (div_lt_iff₀ positive).mpr (by linarith)
        exact ⟨by linarith, by linarith⟩
    | eq =>
        have : (2 * r : ℚ) = d := by exact_mod_cast Nat.compare_eq_eq.mp order
        have half : (r : ℚ) / d = 1 / 2 := (div_eq_iff positive.ne').mpr (by linarith)
        exact congrArg _ half
    | gt =>
        have : (d : ℚ) < 2 * r := by exact_mod_cast Nat.compare_eq_gt.mp order
        have half : (1 : ℚ) / 2 < r / d := (lt_div_iff₀ positive).mpr (by linarith)
        exact ⟨by linarith, by linarith⟩

/-- The exponent that a quotient starts with leaves enough bits to be rounded. -/
theorem quotient_small {start : Int} (h₁ : 0 < m₁) (h₂ : 0 < m₂) (bound : start ≤ e₁ - e₂)
    (room : start ≤ -1074 ∨ start ≤ m₁.log2 + e₁ - (m₂.log2 + e₂) - 53) :
    start ≤ target (m₁ <<< (e₁ - e₂ - start).toNat / m₂) start := by
  rcases room with least | room
  · exact least.trans (le_max_right _ _)
  · apply le_target_of_normal
    rw [Nat.le_div_iff_mul_le h₂, Nat.shiftLeft_eq]
    calc
      2 ^ 52 * m₂ ≤ 2 ^ 52 * 2 ^ (m₂.log2 + 1) := Nat.mul_le_mul_left _ Nat.lt_log2_self.le
      _ = 2 ^ (52 + (m₂.log2 + 1)) := (pow_add ..).symm
      _ ≤ 2 ^ (m₁.log2 + (e₁ - e₂ - start).toNat) := Nat.pow_le_pow_right (by decide) (by omega)
      _ = 2 ^ m₁.log2 * 2 ^ (e₁ - e₂ - start).toNat := pow_add ..
      _ ≤ m₁ * 2 ^ (e₁ - e₂ - start).toNat := Nat.mul_le_mul_right _ (Nat.log2_self_le h₁.ne')

theorem roundOf_div (h₁ : 0 < m₁) (h₂ : 0 < m₂) :
    RoundOf .positive ((m₁ * 2 ^ e₁) / (m₂ * 2 ^ e₂))
      (div binary64 (.finite .positive m₁ e₁ h₁) (.finite .positive m₂ e₂ h₂)) := by
  obtain ⟨start, hstart⟩ : ∃ start, start =
    min (e₁ - e₂) (binary64.targetExponent (totalExponent m₁ e₁ - totalExponent m₂ e₂)) := ⟨_, rfl⟩
  have bound : start ≤ e₁ - e₂ := hstart.trans_le (min_le_left _ _)
  have room : start ≤ -1074 ∨ start ≤ m₁.log2 + e₁ - (m₂.log2 + e₂) - 53 := by
    rw [targetExponent_eq, totalExponent, totalExponent] at hstart
    omega
  refine ⟨_, start, _, _, approximates_fraction (m₁ <<< (e₁ - e₂ - start).toNat) h₂,
    quotient_small h₁ h₂ bound room, ?_, ?_⟩
  · have shift : (2 : ℚ) ^ (e₁ - e₂ - start).toNat = 2 ^ (e₁ - e₂ - start) := by
      rw [← zpow_natCast, Int.toNat_of_nonneg (by omega)]
    have positive : (m₂ : ℚ) ≠ 0 := by exact_mod_cast h₂.ne'
    rw [Nat.shiftLeft_eq, Nat.cast_mul, Nat.cast_pow, Nat.cast_ofNat, shift, zpow_sub₀ (by norm_num),
      zpow_sub₀ (by norm_num)]
    field_simp
  · rw [hstart]
    rfl

/-- Numbers below half of the least positive double are rounded to zero. -/
theorem roundOf_zero (least : 0 ≤ v) (most : v < 2 ^ (-1075 : Int)) :
    RoundOf s v (.zero s) := by
  have stays : target 0 (-1074) = -1074 := rfl
  have double : (2 : ℚ) ^ (-1074 : Int) = 2 * 2 ^ (-1075 : Int) := zpow_one_add₀ (by norm_num) (-1075)
  rcases least.eq_or_lt with rfl | some_part
  · exact ⟨0, -1074, .exact, 0, Nat.cast_zero.symm, stays.ge, zero_mul _, rfl⟩
  · refine ⟨0, -1074, .inexact .lt, v / 2 ^ (-1074 : Int), ?_, stays.ge,
      div_mul_cancel₀ _ (by positivity), rfl⟩
    have half : v / 2 ^ (-1074 : Int) < 1 / 2 := by
      rw [div_lt_iff₀ (by positivity), double]
      linarith
    have : 0 < v / 2 ^ (-1074 : Int) := by positivity
    exact ⟨by simpa using this, by simpa using half⟩

/-- Numbers that are too large are stored as infinity. -/
theorem RoundOf.stored_large (h : RoundOf s v u) (large : limit ≤ v) : stored u = .infinity s := by
  obtain ⟨m, e, a, x, approximates, small, rfl, rfl⟩ := h
  rw [stored_round approximates small, if_neg (not_lt.mpr large)]

end Operations

section Exact

theorem canonical_shiftLeft (hn : n ≠ 0) (bits : n < 2 ^ 53) :
    Canonical (n <<< (52 - n.log2)) (n.log2 - 52) := by
  have few : n.log2 < 53 := (Nat.log2_lt hn).mpr bits
  have normal : 2 ^ 52 ≤ n <<< (52 - n.log2) := by
    rw [Nat.shiftLeft_eq]
    calc
      2 ^ 52 = 2 ^ n.log2 * 2 ^ (52 - n.log2) := by rw [← pow_add]; congr 1; omega
      _ ≤ n * 2 ^ (52 - n.log2) := Nat.mul_le_mul_right _ (Nat.log2_self_le hn)
  have short : n <<< (52 - n.log2) < 2 ^ 53 := by
    rw [Nat.shiftLeft_eq]
    calc
      n * 2 ^ (52 - n.log2) < 2 ^ (n.log2 + 1) * 2 ^ (52 - n.log2) :=
        Nat.mul_lt_mul_of_pos_right Nat.lt_log2_self (by positivity)
      _ = 2 ^ 53 := by rw [← pow_add]; congr 1; omega
  exact ⟨by omega, short, by omega, .inl normal⟩

theorem ofNat_eq (hn : n ≠ 0) (bits : n < 2 ^ 53) : UnpackedFloat.ofNat binary64 n =
    roundWithAccuracy binary64 .positive (n <<< (52 - n.log2)) (n.log2 - 52) .exact := by
  have few : n.log2 < 53 := (Nat.log2_lt hn).mpr bits
  have positive : compare (n : Int) 0 = .gt := Int.compare_eq_gt.mpr (by omega)
  have shift : (0 - target n 0).toNat = 52 - n.log2 := by
    unfold target
    omega
  have exponent : (0 : Int) - (52 - n.log2 : Nat) = n.log2 - 52 := by omega
  rw [UnpackedFloat.ofNat, UnpackedFloat.ofInt, UnpackedFloat.normalize, positive]
  dsimp only
  rw [UnpackedFloat.round, targetExponent_totalExponent, decreaseExponent, Int.toNat_natCast]
  dsimp only
  rw [shift, exponent]

/-- A whole number with at most 53 bits is a double. -/
theorem unpack_toFloat (hn : n ≠ 0) (bits : n < 2 ^ 53) :
    ∃ m e h, n.toUInt64.toFloat.toModel.unpack = .finite .positive m e h ∧ (m : ℚ) * 2 ^ e = n := by
  have few : n.log2 < 53 := (Nat.log2_lt hn).mpr bits
  have canonical := canonical_shiftLeft hn bits
  refine ⟨n <<< (52 - n.log2), n.log2 - 52, canonical.pos, ?_, ?_⟩
  · have same : n.toUInt64.toNat = n := Nat.mod_eq_of_lt (by omega)
    show stored (UnpackedFloat.ofNat binary64 n.toUInt64.toNat) = _
    rw [same, ofNat_eq hn bits, canonical.round_eq, canonical.stored_eq (by omega)]
  · rw [Nat.shiftLeft_eq, Nat.cast_mul, Nat.cast_pow, Nat.cast_ofNat, mul_assoc, ← zpow_natCast,
      ← zpow_add₀ (by norm_num)]
    have : ((52 - n.log2 : Nat) : Int) + (n.log2 - 52) = 0 := by omega
    rw [this, zpow_zero, mul_one]

/-- What a float must be to stand for a power of ten. -/
def PowerOfTen (k : Nat) : UnpackedFloat → Prop
  | .finite .positive m e _ => 2 ^ 52 ≤ m ∧ -52 ≤ e ∧ m * 2 ^ (e + 52).toNat = 10 ^ k * 2 ^ 52
  | _ => False

instance (k : Nat) (u : UnpackedFloat) : Decidable (PowerOfTen k u) :=
  match u with
  | .finite .positive _ _ _ => inferInstanceAs (Decidable (_ ∧ _ ∧ _))
  | .finite .negative _ _ _ | .zero _ | .infinity _ | .notANumber => inferInstanceAs (Decidable False)

theorem powersOfTen_exact : ∀ k : Fin Float.exactlyRepresentablePowersOfTen.size,
    PowerOfTen k Float.exactlyRepresentablePowersOfTen[k].toModel.unpack := by
  decide +kernel

theorem PowerOfTen.exists_finite {k : Nat} {u : UnpackedFloat} (h : PowerOfTen k u) :
    ∃ m e pos, u = .finite .positive m e pos ∧ 2 ^ 52 ≤ m ∧ (m : ℚ) * 2 ^ e = 10 ^ k := by
  match u, h with
  | .finite .positive m e pos, ⟨normal, least, value⟩ =>
      refine ⟨m, e, pos, rfl, normal, ?_⟩
      have exponent : (2 : ℚ) ^ (e + 52).toNat = 2 ^ e * 2 ^ 52 := by
        rw [← zpow_natCast, Int.toNat_of_nonneg (by omega), zpow_add₀ (by norm_num), zpow_ofNat]
      have value : (m : ℚ) * 2 ^ (e + 52).toNat = 10 ^ k * 2 ^ 52 := by exact_mod_cast value
      rw [exponent, ← mul_assoc] at value
      exact mul_right_cancel₀ (by norm_num) value

/-- The power of ten that a small exponent asks for. -/
theorem exists_power {k : Nat} (hk : k < Float.exactlyRepresentablePowersOfTen.size) :
    ∃ m e pos, Float.exactlyRepresentablePowersOfTen[k].toModel.unpack = .finite .positive m e pos ∧
      2 ^ 52 ≤ m ∧ (m : ℚ) * 2 ^ e = 10 ^ k :=
  (powersOfTen_exact ⟨k, hk⟩).exists_finite

end Exact

section Readings

theorem unpack_mul (x y : Float) : (x * y).toModel.unpack =
    stored (mul binary64 x.toModel.unpack y.toModel.unpack) := rfl

theorem unpack_div (x y : Float) : (x / y).toModel.unpack =
    stored (div binary64 x.toModel.unpack y.toModel.unpack) := rfl

theorem toFloat_mul_rounds {k : Nat} (bits : n < 2 ^ 53)
    (hk : k < Float.exactlyRepresentablePowersOfTen.size) :
    ∃ u, RoundOf .positive (n * 10 ^ k) u ∧
      (n.toUInt64.toFloat * Float.exactlyRepresentablePowersOfTen[k]).toModel.unpack = stored u := by
  obtain ⟨m₂, e₂, pos₂, unpack₂, normal, value₂⟩ := exists_power hk
  rw [unpack_mul, unpack₂]
  by_cases none : n = 0
  · subst none
    exact ⟨.zero .positive, roundOf_zero (by simp) (by rw [Nat.cast_zero, zero_mul]; positivity), rfl⟩
  · obtain ⟨m₁, e₁, pos₁, unpack₁, value₁⟩ := unpack_toFloat none bits
    rw [unpack₁, ← value₁, ← value₂]
    exact ⟨_, roundOf_mul pos₁ pos₂ (normal.trans (Nat.le_mul_of_pos_left _ pos₁)), rfl⟩

theorem toFloat_div_rounds {k : Nat} (bits : n < 2 ^ 53)
    (hk : k < Float.exactlyRepresentablePowersOfTen.size) :
    ∃ u, RoundOf .positive (n / 10 ^ k) u ∧
      (n.toUInt64.toFloat / Float.exactlyRepresentablePowersOfTen[k]).toModel.unpack = stored u := by
  obtain ⟨m₂, e₂, pos₂, unpack₂, normal, value₂⟩ := exists_power hk
  rw [unpack_div, unpack₂]
  by_cases none : n = 0
  · subst none
    exact ⟨.zero .positive, roundOf_zero (by simp) (by rw [Nat.cast_zero, zero_div]; positivity), rfl⟩
  · obtain ⟨m₁, e₁, pos₁, unpack₁, value₁⟩ := unpack_toFloat none bits
    rw [unpack₁, ← value₁, ← value₂]
    exact ⟨_, roundOf_div pos₁ pos₂, rfl⟩

theorem roundOf_scientific_mul (hn : 0 < n) (he : 0 ≤ e) :
    ∃ pos pos', RoundOf .positive (n * 10 ^ e) (mul binary64
      (.finite .positive (n <<< 53) (-53) pos) (.finite .positive (10 ^ e.toNat) 0 pos')) := by
  have pos : 0 < n <<< 53 := by
    rw [Nat.shiftLeft_eq]
    positivity
  have pos' : 0 < 10 ^ e.toNat := by positivity
  have value : ((n <<< 53 : Nat) : ℚ) * 2 ^ (-53 : Int) * ((10 ^ e.toNat : Nat) * 2 ^ (0 : Int)) =
      n * 10 ^ e := by
    have power : (10 : ℚ) ^ e.toNat = 10 ^ e := by rw [← zpow_natCast, Int.toNat_of_nonneg he]
    rw [Nat.shiftLeft_eq, Nat.cast_mul, Nat.cast_pow, Nat.cast_pow, Nat.cast_ofNat, Nat.cast_ofNat,
      power, zpow_zero, mul_one, zpow_neg, zpow_ofNat, mul_inv_cancel_right₀ (by positivity)]
  have normal : 2 ^ 52 ≤ n <<< 53 * 10 ^ e.toNat := by
    rw [Nat.shiftLeft_eq]
    calc
      2 ^ 52 ≤ 1 * 2 ^ 53 * 1 := by decide
      _ ≤ n * 2 ^ 53 * 10 ^ e.toNat := Nat.mul_le_mul (Nat.mul_le_mul_right _ hn) pos'
  exact ⟨pos, pos', value ▸ roundOf_mul pos pos' normal⟩

theorem roundOf_scientific_div (hn : 0 < n) (he : e < 0) :
    ∃ pos', RoundOf .positive (n * 10 ^ e) (div binary64
      (.finite .positive n 0 hn) (.finite .positive (10 ^ (-e).toNat) 0 pos')) := by
  have pos' : 0 < 10 ^ (-e).toNat := by positivity
  have value : (n : ℚ) * 2 ^ (0 : Int) / ((10 ^ (-e).toNat : Nat) * 2 ^ (0 : Int)) = n * 10 ^ e := by
    have power : (10 : ℚ) ^ (-e).toNat = 10 ^ (-e) := by
      rw [← zpow_natCast, Int.toNat_of_nonneg (by omega)]
    rw [Nat.cast_pow, Nat.cast_ofNat, power, zpow_zero, mul_one, mul_one, zpow_neg, div_inv_eq_mul]
  exact ⟨pos', value ▸ roundOf_div hn pos'⟩

theorem limit_le_scientific (hn : 0 < n) (huge : 2048 < e) : limit ≤ n * 10 ^ e := calc
  limit ≤ 2 ^ 1024 := limit_lt.le
  _ ≤ 10 ^ 1024 := pow_le_pow_left₀ (by norm_num) (by norm_num) _
  _ = 10 ^ (1024 : Int) := (zpow_ofNat _ _).symm
  _ ≤ 10 ^ e := zpow_le_zpow_right₀ (by norm_num) (by omega)
  _ ≤ n * 10 ^ e := le_mul_of_one_le_left (by positivity) (by exact_mod_cast hn)

theorem scientific_lt (n : Nat) (tiny : e < -(2048 + n.log2)) : (n : ℚ) * 10 ^ e < 2 ^ (-1075 : Int) := by
  have bits : (n : ℚ) < 2 ^ ((n.log2 : Int) + 1) := by exact_mod_cast Nat.lt_log2_self
  have power : (10 : ℚ) ^ e ≤ 2 ^ e := by
    have : (2 : ℚ) ^ (-e) ≤ 10 ^ (-e) := zpow_le_zpow_left₀ (by omega) (by norm_num) (by norm_num)
    rw [zpow_neg, zpow_neg] at this
    exact (inv_le_inv₀ (by positivity) (by positivity)).mp this
  calc
    (n : ℚ) * 10 ^ e ≤ n * 2 ^ e := mul_le_mul_of_nonneg_left power (by positivity)
    _ < 2 ^ ((n.log2 : Int) + 1) * 2 ^ e := mul_lt_mul_of_pos_right bits (by positivity)
    _ = 2 ^ ((n.log2 : Int) + 1 + e) := (zpow_add₀ (by norm_num) _ _).symm
    _ ≤ 2 ^ (-1075 : Int) := zpow_le_zpow_right₀ (by norm_num) (by omega)

theorem ofScientific_rounds (n : Nat) (e : Int) : ∃ u, RoundOf .positive (n * 10 ^ e) u ∧
    stored (UnpackedFloat.ofScientific binary64 n e) = stored u := by
  by_cases none : n = 0
  · refine ⟨.zero .positive, roundOf_zero (by positivity) ?_, ?_⟩
    · rw [none, Nat.cast_zero, zero_mul]
      positivity
    · rw [UnpackedFloat.ofScientific, dif_pos none]
  · have some_part := Nat.pos_of_ne_zero none
    unfold UnpackedFloat.ofScientific
    rw [dif_neg none]
    split
    · rename_i huge
      have huge : 2048 < e := huge
      obtain ⟨_, _, rounds⟩ := roundOf_scientific_mul some_part (by omega : 0 ≤ e)
      refine ⟨_, rounds, ?_⟩
      rw [rounds.stored_large (limit_le_scientific some_part huge), stored_infinity]
    · split
      · rename_i tiny
        exact ⟨_, roundOf_zero (by positivity) (scientific_lt n tiny), rfl⟩
      · split
        · rename_i forward
          obtain ⟨_, _, rounds⟩ := roundOf_scientific_mul some_part forward
          exact ⟨_, rounds, rfl⟩
        · rename_i backward
          obtain ⟨_, rounds⟩ := roundOf_scientific_div some_part (not_le.mp backward)
          exact ⟨_, rounds, rfl⟩

/-- What a number in decimal is read as is a rounding of it. -/
theorem nearest_rounds (n : Nat) (e : Int) : ∃ u, RoundOf .positive (n * 10 ^ e) u ∧
    (nearest n e).toModel.unpack = stored u := by
  unfold nearest Float.ofScientific
  split
  · rename_i few
    have hk : e.natAbs < Float.exactlyRepresentablePowersOfTen.size := Nat.lt_succ_of_le few.2
    dsimp only
    by_cases backward : e < 0
    · have power : (n : ℚ) * 10 ^ e = n / 10 ^ e.natAbs := by
        have : e = -(e.natAbs : Int) := by omega
        conv_lhs => rw [this, zpow_neg, zpow_natCast, ← div_eq_mul_inv]
      rw [if_pos (decide_eq_true backward), power]
      exact toFloat_div_rounds few.1 hk
    · have power : (n : ℚ) * 10 ^ e = n * 10 ^ e.natAbs := by
        have : e = (e.natAbs : Int) := by omega
        conv_lhs => rw [this, zpow_natCast]
      rw [if_neg (by simpa using backward), power]
      exact toFloat_mul_rounds few.1 hk
  · have exponent : (if decide (e < 0) = true then Int.negOfNat e.natAbs else Int.ofNat e.natAbs) = e := by
      split
      · rename_i backward
        have := of_decide_eq_true backward
        rw [Int.negOfNat_eq]
        show -(e.natAbs : Int) = e
        omega
      · rename_i forward
        have : ¬e < 0 := by simpa using forward
        show (e.natAbs : Int) = e
        omega
    dsimp only
    rw [exponent]
    exact ofScientific_rounds n e

end Readings

section Values

/-- A number in decimal is read as a finite double exactly if it is below the limit. -/
theorem isFinite_nearest_iff (n : Nat) (e : Int) :
    (nearest n e).isFinite = true ↔ (n : ℚ) * 10 ^ e < limit := by
  obtain ⟨u, ⟨m, e', a, x, approximates, small, value, rfl⟩, unpack⟩ := nearest_rounds n e
  have finite : (nearest n e).isFinite = (nearest n e).toModel.unpack.isFinite := rfl
  rw [finite, unpack, stored_round approximates small, value]
  split
  · rename_i below
    refine iff_of_true ?_ below
    obtain ⟨-, zero⟩ | ⟨_, _, _, finite, -⟩ := roundWithAccuracy_cases .positive a small
    · rw [zero]
      rfl
    · rw [finite]
      rfl
  · rename_i above
    exact iff_of_false Bool.false_ne_true above

/-- The number that a float stands for, unless it is infinite or no number. -/
def unpacked? : UnpackedFloat → Option ℚ
  | .zero _ => some 0
  | .finite s m e _ => some (signed s (m * 2 ^ e))
  | _ => none

/-- The number that a double stands for, unless it is infinite or no number. -/
def number? (x : Float) : Option ℚ := unpacked? x.toModel.unpack

/-- The significand is even, or there is none. -/
def EvenSignificand : UnpackedFloat → Prop
  | .finite _ m _ _ => m % 2 = 0
  | _ => True

theorem steps_of_number? {x : Float} {z : ℚ} (h : number? x = some z) (T : Int) :
    (∃ i : Int, z = i * 2 ^ T) ∨ -1074 < T ∧ z < 2 ^ 52 * 2 ^ T := by
  unfold number? at h
  cases unpacked : x.toModel.unpack with
  | infinity | notANumber =>
      rw [unpacked] at h
      cases h
  | zero =>
      rw [unpacked] at h
      cases h
      exact .inl ⟨0, by simp⟩
  | finite s m e pos =>
      rw [unpacked] at h
      cases h
      exact (canonical_of_unpack unpacked).1.steps s T

theorem number?_round (small : e ≤ target m e) :
    unpacked? (roundWithAccuracy binary64 .positive m e a) =
      some ((rounded m e a : ℚ) * 2 ^ target m e) := by
  obtain ⟨none_left, zero⟩ | ⟨m', e', pos, finite, -, value⟩ :=
    roundWithAccuracy_cases .positive a small
  · rw [zero, none_left, Nat.cast_zero, zero_mul]
    rfl
  · rw [finite, ← value]
    rfl

theorem even_float (even : m % 2 = 0) : EvenSignificand (float s m e) := by
  unfold float
  split
  · trivial
  · exact even

theorem even_round (small : e ≤ target m e) (even : rounded m e a % 2 = 0) :
    EvenSignificand (roundWithAccuracy binary64 s m e a) := by
  rw [roundWithAccuracy_eq small]
  split
  · exact even_float even
  · exact even_float (by decide)

/-- Below the limit, a number in decimal is read as a double to which no other double is closer; where
another one is as close, the significand is even. -/
theorem nearest_closest (n : Nat) (e : Int) (below : (n : ℚ) * 10 ^ e < limit) :
    ∃ y, number? (nearest n e) = some y ∧ ∀ (x : Float) (z : ℚ), number? x = some z →
      z = y ∨ |(n : ℚ) * 10 ^ e - y| < |n * 10 ^ e - z| ∨
        |(n : ℚ) * 10 ^ e - y| = |n * 10 ^ e - z| ∧
          EvenSignificand (nearest n e).toModel.unpack := by
  obtain ⟨u, ⟨m, e', a, x, approximates, small, value, rfl⟩, unpack⟩ := nearest_rounds n e
  rw [← value] at below ⊢
  rw [stored_round approximates small, if_pos below] at unpack
  refine ⟨rounded m e' a * 2 ^ target m e', ?_, fun x z hz => ?_⟩
  · rw [number?, unpack, number?_round small]
  · rw [unpack]
    exact (rounded_closest approximates small (steps_of_number? hz _)).imp_right
      (Or.imp_right (And.imp_right (even_round small)))

end Values

end University.Double
