import Mathlib

/-! # Rounding to doubles

How the logical model of floating point rounds. What it knows of a number is a mantissa, an exponent and
how far the number lies behind the mantissa. It cuts the mantissa down to 53 bits, but never below the
least exponent, and rounds to the nearest whole number there, of two equally close ones to the even one.
So no double is closer to the number than what it is rounded to, and the result is too large for a double
exactly if the number is not below the largest double by half a step more.
-/

namespace University.Double

open Float.Model Float.Model.UnpackedFloat Float.Model.Format

variable {m k n : Nat} {e T : Int} {x v : ℚ} {a : Accuracy} {em : ExtendedMantissa} {s : Sign}

/-- The number `x` lies at `m`, or behind it by less than one, and on which side of the middle. -/
def Approximates (m : Nat) (x : ℚ) : Accuracy → Prop
  | .exact => x = m
  | .inexact .lt => m < x ∧ x < m + 1 / 2
  | .inexact .eq => x = m + 1 / 2
  | .inexact .gt => m + 1 / 2 < x ∧ x < m + 1

section Nearest

theorem Approximates.le (h : Approximates m x a) : m ≤ x := by
  rcases a with _ | _ | _ | _ <;> simp only [Approximates] at h <;> linarith

theorem Approximates.lt (h : Approximates m x a) : x < m + 1 := by
  rcases a with _ | _ | _ | _ <;> simp only [Approximates] at h <;> linarith

theorem le_round (m : Nat) (a : Accuracy) : m ≤ a.roundToNearestEven m := by
  rcases a with _ | _ | _ | _ <;> simp [Accuracy.roundToNearestEven]

theorem round_le (m : Nat) (a : Accuracy) : a.roundToNearestEven m ≤ m + 1 := by
  rcases a with _ | _ | _ | _ <;> simp only [Accuracy.roundToNearestEven] <;> omega

/-- The middle behind an odd number is rounded up. -/
theorem Approximates.lt_round_iff (h : Approximates m x a) (hk : k % 2 = 1) :
    k < a.roundToNearestEven m ↔ (k : ℚ) + 1 / 2 ≤ x := by
  have from_below := le_round m a
  have to_above := round_le m a
  obtain before | rfl | behind := lt_trichotomy k m
  · have : (k : ℚ) + 1 ≤ m := by exact_mod_cast before
    have := h.le
    exact ⟨fun _ => by linarith, fun _ => by omega⟩
  · rcases a with _ | _ | _ | _ <;>
      simp only [Approximates, Accuracy.roundToNearestEven, hk] at h ⊢
    · simp [h]
    · exact ⟨fun stays => absurd stays (lt_irrefl k), fun up => absurd h.2 (not_lt.mpr up)⟩
    · exact ⟨fun _ => h.ge, fun _ => by omega⟩
    · exact ⟨fun _ => h.1.le, fun _ => by omega⟩
  · have : (m : ℚ) + 1 ≤ k := by exact_mod_cast behind
    have := h.lt
    exact ⟨fun _ => by omega, fun _ => by linarith⟩

/-- A number is rounded by less than a half, or by a half to an even number. -/
theorem Approximates.half (h : Approximates m x a) : |x - a.roundToNearestEven m| < 1 / 2 ∨
    |x - a.roundToNearestEven m| = 1 / 2 ∧ a.roundToNearestEven m % 2 = 0 := by
  rcases a with _ | _ | _ | _ <;> simp only [Approximates, Accuracy.roundToNearestEven] at h ⊢
  · left
    rw [h, sub_self, abs_zero]
    norm_num
  · left
    rw [abs_lt]
    constructor <;> linarith
  · right
    rcases Nat.mod_two_eq_zero_or_one m with even | odd
    · rw [even, add_zero, h, add_sub_cancel_left]
      exact ⟨by norm_num, even⟩
    · rw [odd, h, Nat.cast_add, Nat.cast_one, add_sub_add_left_eq_sub]
      exact ⟨by norm_num, by omega⟩
  · left
    rw [abs_lt]
    push_cast
    constructor <;> linarith

/-- No whole number is closer, and of two that are equally close the even one is taken. -/
theorem Approximates.closest (h : Approximates m x a) (i : Int) :
    i = a.roundToNearestEven m ∨ |x - a.roundToNearestEven m| < |x - i| ∨
      |x - a.roundToNearestEven m| = |x - i| ∧ a.roundToNearestEven m % 2 = 0 := by
  have half := h.half
  generalize a.roundToNearestEven m = r at half ⊢
  by_cases same : i = r
  · exact .inl same
  · have apart : (1 : ℚ) ≤ |(r : ℚ) - i| := by
      exact_mod_cast Int.one_le_abs (sub_ne_zero.mpr (Ne.symm same))
    have around : |(r : ℚ) - i| ≤ |x - r| + |x - i| := by
      rw [abs_sub_comm x r]
      exact abs_sub_le _ _ _
    right
    rcases half with less | ⟨equal, even⟩
    · left
      linarith
    · rcases (show |x - r| ≤ |x - i| by linarith).lt_or_eq with less | tie
      · exact .inl less
      · exact .inr ⟨tie, even⟩

end Nearest

section Shifts

theorem accuracy_ofMantissaAndAccuracy (m : Nat) (a : Accuracy) :
    (ExtendedMantissa.ofMantissaAndAccuracy m a).accuracy = a := by
  rcases a with _ | _ | _ | _ <;> rfl

theorem mantissa_ofMantissaAndAccuracy (m : Nat) (a : Accuracy) :
    (ExtendedMantissa.ofMantissaAndAccuracy m a).mantissa = m := by
  rcases a with _ | _ | _ | _ <;> rfl

/-- The bit that is shifted out tells on which side of the middle the number lies then. -/
theorem Approximates.shiftRightOne (h : Approximates em.mantissa x em.accuracy) :
    Approximates em.shiftRightOne.mantissa (x / 2) em.shiftRightOne.accuracy := by
  obtain ⟨m, round, sticky⟩ := em
  obtain ⟨half, rfl | rfl⟩ := Nat.even_or_odd' m
  · have even : (2 * half % 2 != 0) = false := by simp
    have floor : 2 * half / 2 = half := by omega
    rcases round <;> rcases sticky <;>
      simp only [ExtendedMantissa.shiftRightOne, ExtendedMantissa.accuracy, Approximates, even, floor,
        Bool.or_false, Bool.or_true, Nat.cast_mul, Nat.cast_two] at h ⊢
    · linarith
    all_goals constructor <;> linarith
  · have odd : ((2 * half + 1) % 2 != 0) = true := by simp
    have floor : (2 * half + 1) / 2 = half := by omega
    rcases round <;> rcases sticky <;>
      simp only [ExtendedMantissa.shiftRightOne, ExtendedMantissa.accuracy, Approximates, odd, floor,
        Bool.or_false, Bool.or_true, Nat.cast_add, Nat.cast_mul, Nat.cast_two, Nat.cast_one] at h ⊢
    · linarith
    all_goals constructor <;> linarith

theorem Approximates.shiftRight (h : Approximates em.mantissa x em.accuracy) (n : Nat) :
    Approximates (em >>> n).mantissa (x / 2 ^ n) (em >>> n).accuracy := by
  induction n with
  | zero =>
      rw [pow_zero, div_one]
      exact h
  | succ n ih =>
      rw [pow_succ, ← div_div]
      exact ih.shiftRightOne

theorem mantissa_shiftRight (em : ExtendedMantissa) (n : Nat) :
    (em >>> n).mantissa = em.mantissa / 2 ^ n := by
  induction n with
  | zero =>
      rw [pow_zero, Nat.div_one]
      rfl
  | succ n ih =>
      rw [pow_succ, ← Nat.div_div_eq_div_mul, ← ih]
      rfl

end Shifts

section Target

theorem targetExponent_eq (t : Int) : binary64.targetExponent t = max (t - 53) (-1074) := rfl

/-- The exponent to which the number `m * 2 ^ e` is rounded. -/
def target (m : Nat) (e : Int) : Int := max (m.log2 + e - 52) (-1074)

theorem targetExponent_totalExponent (m : Nat) (e : Int) :
    binary64.targetExponent (totalExponent m e) = target m e := by
  rw [targetExponent_eq, totalExponent, target]
  omega

theorem least_le_target (m : Nat) (e : Int) : -1074 ≤ target m e := le_max_right _ _

theorem le_target_of_normal (normal : 2 ^ 52 ≤ m) : e ≤ target m e := by
  have := (Nat.le_log2 (by omega)).mpr normal
  unfold target
  omega

/-- The mantissas and exponents of doubles that are not zero, but for the upper bound of the exponent. -/
structure Canonical (m : Nat) (e : Int) : Prop where
  pos : 0 < m
  lt : m < 2 ^ 53
  le_exponent : -1074 ≤ e
  normal_or_least : 2 ^ 52 ≤ m ∨ e = -1074

theorem target_of_lt (bits : m < 2 ^ 53) (least : -1074 ≤ e) (normal : 2 ^ 52 ≤ m ∨ e = -1074) :
    target m e = e := by
  have few : m.log2 < 53 := by
    by_cases none_set : m = 0
    · rw [none_set, Nat.log2_zero]
      decide
    · exact (Nat.log2_lt none_set).mpr bits
  unfold target
  rcases normal with normal | rfl
  · have : 52 ≤ m.log2 := (Nat.le_log2 (by omega)).mpr normal
    omega
  · omega

theorem target_two_pow (least : -1074 ≤ e) : target (2 ^ 53) e = e + 1 := by
  rw [target, Nat.log2_two_pow]
  omega

end Target

section Kept

/-- What is kept of a mantissa at the exponent to which the number is rounded. -/
def kept (m : Nat) (e : Int) (a : Accuracy) : ExtendedMantissa :=
  ExtendedMantissa.ofMantissaAndAccuracy m a >>> (target m e - e).toNat

theorem mantissa_kept (m : Nat) (e : Int) (a : Accuracy) :
    (kept m e a).mantissa = m / 2 ^ (target m e - e).toNat := by
  rw [kept, mantissa_shiftRight, mantissa_ofMantissaAndAccuracy]

theorem shiftToTargetExponent_eq (small : e ≤ target m e) :
    shiftToTargetExponent binary64 m e a = (kept m e a, target m e) := by
  have exponent : e + (target m e - e).toNat = target m e := by omega
  rw [shiftToTargetExponent, shiftToExponent, targetExponent_totalExponent]
  exact Prod.ext rfl exponent

theorem kept_lt (m : Nat) (e : Int) (a : Accuracy) : (kept m e a).mantissa < 2 ^ 53 := by
  rw [mantissa_kept, Nat.div_lt_iff_lt_mul (by positivity), ← pow_add]
  apply Nat.lt_log2_self.trans_le
  apply Nat.pow_le_pow_right (by decide)
  simp only [target]
  omega

theorem le_kept (a : Accuracy) (small : e ≤ target m e) (high : -1074 < target m e) :
    2 ^ 52 ≤ (kept m e a).mantissa := by
  have some_bit : m ≠ 0 := by
    rintro rfl
    simp only [target, Nat.log2_zero] at small high
    omega
  rw [mantissa_kept, Nat.le_div_iff_mul_le (by positivity), ← pow_add]
  apply le_trans _ (Nat.log2_self_le some_bit)
  apply Nat.pow_le_pow_right (by decide)
  simp only [target] at *
  omega

/-- What is kept approximates the number, measured in steps of the new exponent. -/
theorem exists_kept (h : Approximates m x a) (small : e ≤ target m e) :
    ∃ w, Approximates (kept m e a).mantissa w (kept m e a).accuracy ∧
      x * 2 ^ e = w * 2 ^ target m e := by
  refine ⟨x / 2 ^ (target m e - e).toNat, Approximates.shiftRight ?_ _, ?_⟩
  · rw [mantissa_ofMantissaAndAccuracy, accuracy_ofMantissaAndAccuracy]
    exact h
  · have power : (2 : ℚ) ^ target m e = 2 ^ (target m e - e).toNat * 2 ^ e := by
      rw [← zpow_natCast, ← zpow_add₀ (by norm_num), Int.toNat_of_nonneg (by omega), sub_add_cancel]
    rw [power, ← mul_assoc, div_mul_cancel₀ _ (by positivity)]

/-- The mantissa to which a number is rounded. -/
def rounded (m : Nat) (e : Int) (a : Accuracy) : Nat := (kept m e a).roundedMantissa

theorem rounded_le (m : Nat) (e : Int) (a : Accuracy) : rounded m e a ≤ 2 ^ 53 :=
  (round_le _ _).trans (kept_lt m e a)

theorem le_rounded (a : Accuracy) (small : e ≤ target m e) (high : -1074 < target m e) :
    2 ^ 52 ≤ rounded m e a :=
  (le_kept a small high).trans (le_round _ _)

theorem rounded_normal (a : Accuracy) (small : e ≤ target m e) :
    2 ^ 52 ≤ rounded m e a ∨ target m e = -1074 := by
  rcases (least_le_target m e).eq_or_lt with least | high
  · exact .inr least.symm
  · exact .inl (le_rounded a small high)

end Kept

section Results

/-- The float with this mantissa and this exponent. -/
def float (s : Sign) (m : Nat) (e : Int) : UnpackedFloat :=
  if h : m = 0 then .zero s else .finite s m e (Nat.pos_of_ne_zero h)

/-- A rounded mantissa has its exponent already, unless it has become one bit too long. -/
theorem roundWithAccuracy_eq (small : e ≤ target m e) : roundWithAccuracy binary64 s m e a =
    if rounded m e a < 2 ^ 53 then float s (rounded m e a) (target m e)
    else float s (2 ^ 52) (target m e + 1) := by
  have least := least_le_target m e
  have again (r : Nat) (hr : rounded m e a = r) (settled : target m e ≤ target r (target m e)) :
      roundWithAccuracy binary64 s m e a =
        float s (r / 2 ^ (target r (target m e) - target m e).toNat) (target r (target m e)) := by
    rw [roundWithAccuracy, shiftToTargetExponent_eq small]
    dsimp only
    rw [show (kept m e a).roundedMantissa = r from hr, shiftToTargetExponent_eq settled,
      ← mantissa_kept]
    rfl
  split
  · rename_i bits
    have stays := target_of_lt bits least (rounded_normal a small)
    rw [again _ rfl stays.ge, stays, sub_self, Int.toNat_zero, pow_zero, Nat.div_one]
  · rename_i long
    have full : rounded m e a = 2 ^ 53 := le_antisymm (rounded_le m e a) (not_lt.mp long)
    have next := target_two_pow least
    rw [again _ full (by omega), next, add_sub_cancel_left]
    rfl

/-- What a number is rounded to is zero, or a double in its canonical form. -/
theorem roundWithAccuracy_cases (s : Sign) (a : Accuracy) (small : e ≤ target m e) :
    (rounded m e a = 0 ∧ roundWithAccuracy binary64 s m e a = .zero s) ∨
      ∃ m' e' h, roundWithAccuracy binary64 s m e a = .finite s m' e' h ∧ Canonical m' e' ∧
        (m' : ℚ) * 2 ^ e' = rounded m e a * 2 ^ target m e := by
  have least := least_le_target m e
  rw [roundWithAccuracy_eq small]
  split
  · rename_i bits
    by_cases none_left : rounded m e a = 0
    · exact .inl ⟨none_left, dif_pos none_left⟩
    · have some_bit := Nat.pos_of_ne_zero none_left
      have canonical : Canonical (rounded m e a) (target m e) :=
        ⟨some_bit, bits, least, rounded_normal a small⟩
      exact .inr ⟨_, _, some_bit, dif_neg none_left, canonical, rfl⟩
  · rename_i long
    have full : rounded m e a = 2 ^ 53 := le_antisymm (rounded_le m e a) (not_lt.mp long)
    have some_bit : 0 < 2 ^ 52 := by decide
    have canonical : Canonical (2 ^ 52) (target m e + 1) :=
      ⟨some_bit, by decide, by omega, .inl le_rfl⟩
    refine .inr ⟨_, _, some_bit, dif_neg (by decide), canonical, ?_⟩
    rw [full, zpow_add_one₀ (by norm_num)]
    push_cast
    ring

/-- A double in its canonical form is rounded to itself. -/
theorem Canonical.round_eq (h : Canonical m e) :
    roundWithAccuracy binary64 s m e .exact = .finite s m e h.pos := by
  have stays := target_of_lt h.lt h.le_exponent h.normal_or_least
  have same : rounded m e .exact = m := by
    have : kept m e .exact = ⟨m, false, false⟩ := by
      rw [kept, stays, sub_self]
      rfl
    rw [rounded, this]
    rfl
  rw [roundWithAccuracy_eq stays.ge, same, if_pos h.lt, stays]
  exact dif_neg h.pos.ne'

end Results

section Limit

/-- The least number that is too large for a double: half a step behind the largest double. -/
def limit : ℚ := 2 ^ 1024 - 2 ^ 970

theorem two_pow_eq : (2 : ℚ) ^ 1024 = 2 ^ 54 * 2 ^ 970 := by
  rw [show 1024 = 54 + 970 from rfl, pow_add]

theorem limit_eq : limit = (2 ^ 54 - 1) * 2 ^ 970 := by
  rw [limit, two_pow_eq, sub_mul, one_mul]

theorem limit_lt : limit < 2 ^ 1024 := sub_lt_self _ (by positivity)

theorem mul_zpow_le {y : ℚ} {S : Int} (least : 0 ≤ y) (numbers : x ≤ y) (exponents : S ≤ T) :
    x * 2 ^ S ≤ y * 2 ^ T := by
  have powers : (2 : ℚ) ^ S ≤ 2 ^ T := zpow_le_zpow_right₀ (by norm_num) exponents
  exact mul_le_mul numbers powers (by positivity) least

theorem mul_zpow_lt_limit (few : x ≤ 2 ^ 53) (below : T < 971) : x * 2 ^ T < limit := calc
  x * 2 ^ T ≤ 2 ^ 53 * 2 ^ (970 : Int) := mul_zpow_le (by norm_num) few (by omega)
  _ < (2 ^ 54 - 1) * 2 ^ (970 : Int) := mul_lt_mul_of_pos_right (by norm_num) (by positivity)
  _ = limit := limit_eq.symm

theorem le_mul_zpow (many : 2 ^ 52 ≤ x) (above : 971 < T) : 2 ^ 1024 ≤ x * 2 ^ T := calc
  (2 : ℚ) ^ 1024 = 2 ^ 52 * 2 ^ (972 : Int) := by
    rw [show 1024 = 52 + 972 from rfl, pow_add, zpow_ofNat]
  _ ≤ x * 2 ^ T := mul_zpow_le ((by norm_num : (0 : ℚ) ≤ 2 ^ 52).trans many) many above

/-- The exponent of a double tells whether it is too large. -/
theorem Canonical.lt_iff (h : Canonical m e) : (m : ℚ) * 2 ^ e < 2 ^ 1024 ↔ e ≤ 971 := by
  constructor
  · intro below
    by_contra above
    have normal : 2 ^ 52 ≤ m := h.normal_or_least.resolve_right (by omega)
    exact absurd below (not_lt.mpr (le_mul_zpow (by exact_mod_cast normal) (not_le.mp above)))
  · intro fits
    have bits : (m : ℚ) < 2 ^ 53 := by exact_mod_cast h.lt
    calc
      (m : ℚ) * 2 ^ e < 2 ^ 53 * 2 ^ e := mul_lt_mul_of_pos_right bits (by positivity)
      _ ≤ 2 ^ 53 * 2 ^ (971 : Int) := mul_zpow_le (by norm_num) le_rfl fits
      _ = 2 ^ 1024 := by rw [show 1024 = 53 + 971 from rfl, pow_add, zpow_ofNat]

/-- A number is rounded to a double exactly if it is below the limit. -/
theorem rounded_lt_iff (h : Approximates m x a) (small : e ≤ target m e) :
    (rounded m e a : ℚ) * 2 ^ target m e < 2 ^ 1024 ↔ x * 2 ^ e < limit := by
  obtain ⟨w, approximates, value⟩ := exists_kept h small
  have low := approximates.le
  have high := approximates.lt
  rw [value]
  obtain below | last | above := lt_trichotomy (target m e) 971
  · have few : (rounded m e a : ℚ) ≤ 2 ^ 53 := by exact_mod_cast rounded_le m e a
    have few' : ((kept m e a).mantissa : ℚ) + 1 ≤ 2 ^ 53 := by exact_mod_cast kept_lt m e a
    exact iff_of_true ((mul_zpow_lt_limit few below).trans limit_lt)
      (mul_zpow_lt_limit (high.le.trans few') below)
  · -- The largest mantissa is odd, so that the number half a step behind it is rounded up.
    have up : 2 ^ 53 - 1 < rounded m e a ↔ ((2 ^ 53 - 1 : Nat) : ℚ) + 1 / 2 ≤ w :=
      approximates.lt_round_iff (by decide)
    have step : (2 : ℚ) ^ target m e = 2 * 2 ^ 970 := by
      rw [last, zpow_ofNat, show 971 = 970 + 1 from rfl, pow_succ']
    have positive : (0 : ℚ) < 2 ^ 970 := by positivity
    have full : 2 ^ 53 - 1 < rounded m e a ↔ 2 ^ 1024 ≤ (rounded m e a : ℚ) * (2 * 2 ^ 970) := by
      have next : 2 ^ 53 - 1 < rounded m e a ↔ 2 ^ 53 ≤ rounded m e a := by omega
      have cast : 2 ^ 53 ≤ rounded m e a ↔ (2 : ℚ) ^ 53 ≤ rounded m e a := by exact_mod_cast Iff.rfl
      rw [next, cast, two_pow_eq, ← mul_assoc, mul_le_mul_iff_left₀ positive]
      constructor <;> intro <;> linarith
    have far : ((2 ^ 53 - 1 : Nat) : ℚ) + 1 / 2 ≤ w ↔ limit ≤ w * (2 * 2 ^ 970) := by
      rw [limit_eq, ← mul_assoc, mul_le_mul_iff_left₀ positive]
      norm_num
      constructor <;> intro <;> linarith
    rw [step, ← not_le, ← not_le, ← full, up, far]
  · have many : (2 : ℚ) ^ 52 ≤ (kept m e a).mantissa := by
      exact_mod_cast le_kept a small (by omega)
    have many' : (2 : ℚ) ^ 52 ≤ rounded m e a := by exact_mod_cast le_rounded a small (by omega)
    exact iff_of_false (not_lt.mpr (le_mul_zpow many' above))
      (not_lt.mpr (limit_lt.le.trans (le_mul_zpow (many.trans low) above)))

end Limit

section Closest

/-- A number with a sign. -/
def signed : Sign → ℚ → ℚ
  | .positive, x => x
  | .negative, x => -x

/-- A double is a whole number of steps, or it is small beside numbers with such steps. -/
theorem Canonical.steps (h : Canonical m e) (s : Sign) (T : Int) :
    (∃ i : Int, signed s (m * 2 ^ e) = i * 2 ^ T) ∨
      -1074 < T ∧ signed s (m * 2 ^ e) < 2 ^ 52 * 2 ^ T := by
  by_cases coarse : T ≤ e
  · left
    have exponent : ((e - T).toNat : Int) + T = e := by omega
    have steps : (m : ℚ) * 2 ^ e = (m * 2 ^ (e - T).toNat : Nat) * 2 ^ T := by
      rw [Nat.cast_mul, Nat.cast_pow, Nat.cast_ofNat, mul_assoc, ← zpow_natCast,
        ← zpow_add₀ (by norm_num), exponent]
    cases s with
    | positive => exact ⟨(m * 2 ^ (e - T).toNat : Nat), by rw [signed, steps, Int.cast_natCast]⟩
    | negative =>
        exact ⟨-(m * 2 ^ (e - T).toNat : Nat), by
          rw [signed, steps, Int.cast_neg, Int.cast_natCast, neg_mul]⟩
  · right
    have least := h.le_exponent
    have bits : (m : ℚ) < 2 ^ 53 := by exact_mod_cast h.lt
    have below : (m : ℚ) * 2 ^ e < 2 ^ 52 * 2 ^ T := calc
      (m : ℚ) * 2 ^ e < 2 ^ 53 * 2 ^ e := mul_lt_mul_of_pos_right bits (by positivity)
      _ = 2 ^ 52 * 2 ^ (e + 1) := by
        rw [zpow_add_one₀ (by norm_num)]
        ring
      _ ≤ 2 ^ 52 * 2 ^ T := mul_zpow_le (by norm_num) le_rfl (by omega)
    refine ⟨by omega, ?_⟩
    cases s with
    | positive => exact below
    | negative =>
        have : (0 : ℚ) ≤ m * 2 ^ e := by positivity
        have : (0 : ℚ) < 2 ^ 52 * 2 ^ T := by positivity
        rw [signed]
        linarith

/-- No double is closer to a number than what it is rounded to. A double with smaller steps does not
reach the least mantissa that is kept, and that one is no closer. -/
theorem rounded_closest (h : Approximates m x a) (small : e ≤ target m e) {z : ℚ}
    (hz : (∃ i : Int, z = i * 2 ^ target m e) ∨
      -1074 < target m e ∧ z < 2 ^ 52 * 2 ^ target m e) :
    z = rounded m e a * 2 ^ target m e ∨
      |x * 2 ^ e - rounded m e a * 2 ^ target m e| < |x * 2 ^ e - z| ∨
        |x * 2 ^ e - rounded m e a * 2 ^ target m e| = |x * 2 ^ e - z| ∧ rounded m e a % 2 = 0 := by
  obtain ⟨w, approximates, value⟩ := exists_kept h small
  have step : (0 : ℚ) < 2 ^ target m e := by positivity
  have scaled (c d : ℚ) : |c * 2 ^ target m e - d * 2 ^ target m e| = |c - d| * 2 ^ target m e := by
    rw [← sub_mul, abs_mul, abs_of_pos step]
  rw [value]
  rcases hz with ⟨i, rfl⟩ | ⟨high, below⟩
  · rw [scaled, scaled, mul_lt_mul_iff_left₀ step, mul_left_inj' step.ne', mul_left_inj' step.ne']
    exact_mod_cast approximates.closest i
  · right
    left
    have normal : (2 : ℚ) ^ 52 ≤ (kept m e a).mantissa := by exact_mod_cast le_kept a small high
    have least : 2 ^ 52 ≤ w := normal.trans approximates.le
    have between : |w - rounded m e a| ≤ w - 2 ^ 52 := by
      rw [← abs_of_nonneg (sub_nonneg.mpr least)]
      rcases approximates.closest (2 ^ 52) with same | closer | ⟨tie, -⟩
      · have : ((2 : ℚ) ^ 52) = rounded m e a := by exact_mod_cast same
        rw [this]
      · exact_mod_cast closer.le
      · exact_mod_cast tie.le
    have before : z < w * 2 ^ target m e :=
      below.trans_le (mul_le_mul_of_nonneg_right least step.le)
    rw [scaled, abs_of_pos (sub_pos.mpr before)]
    calc
      |w - rounded m e a| * 2 ^ target m e ≤ (w - 2 ^ 52) * 2 ^ target m e :=
        mul_le_mul_of_nonneg_right between step.le
      _ < w * 2 ^ target m e - z := by
        rw [sub_mul]
        linarith

end Closest

end University.Double
