import University.Proofs.Double.Rounding

/-! # Doubles in 64 bits

A float that is stored in 64 bits is read back as it was if it has the canonical form of a double. If its
exponent is too large, it is read back as infinite.
-/

namespace University.Double

open Float.Model Float.Model.UnpackedFloat Float.Model.Format

variable {m : Nat} {e : Int} {x : ℚ} {a : Accuracy} {s : Sign}

/-- What is read back of a float that is stored in 64 bits. -/
def stored (u : UnpackedFloat) : UnpackedFloat :=
  UnpackedFloat.unpack binary64 (UnpackedFloat.pack binary64 u)

section Packing

theorem toNat_append (bits : BitVec 52) : (1#1 ++ bits).toNat = 2 ^ 52 + bits.toNat := by
  rw [BitVec.toNat_append, ← Nat.shiftLeft_add_eq_or_of_lt bits.isLt]
  rfl

theorem ofNat_ne_ofNat {w n k : Nat} (hn : n < 2 ^ w) (hk : k < 2 ^ w) (other : n ≠ k) :
    BitVec.ofNat w n ≠ BitVec.ofNat w k := by
  intro same
  have := congrArg BitVec.toNat same
  rw [BitVec.toNat_ofNat, BitVec.toNat_ofNat, Nat.mod_eq_of_lt hn, Nat.mod_eq_of_lt hk] at this
  exact other this

theorem biased_eq (e : Int) : (e + binary64.exponentBias + binary64.mantissaBitsWithoutImplicit).toNat =
    (e + 1075).toNat := by
  have bias : (binary64.exponentBias : Int) = 1023 := rfl
  have bits : (binary64.mantissaBitsWithoutImplicit : Int) = 52 := rfl
  rw [bias, bits]
  omega

theorem stored_zero (s : Sign) : stored (.zero s) = .zero s := by
  rw [stored, UnpackedFloat.pack, unpack_packedZero]

theorem stored_infinity (s : Sign) : stored (.infinity s) = .infinity s := by
  rw [stored, UnpackedFloat.pack, packedInfinity, UnpackedFloat.unpack]
  simp

theorem stored_large (large : 971 < e) (h : 0 < m) : stored (.finite s m e h) = .infinity s := by
  rw [stored, UnpackedFloat.pack]
  dsimp only
  rw [biased_eq, if_pos (by show 2048 ≤ _; omega), packedInfinity, UnpackedFloat.unpack]
  simp

theorem stored_subnormal (few : m < 2 ^ 52) (h : 0 < m) :
    stored (.finite s m (-1074) h) = .finite s m (-1074) h := by
  have bits : m.log2 < 52 := (Nat.log2_lt h.ne').mpr few
  have length : ¬m.log2 + 1 = binary64.mantissaBits := by
    show ¬m.log2 + 1 = 53
    omega
  have same : (BitVec.ofNat 52 m).toNat = m := by
    rw [BitVec.toNat_ofNat, Nat.mod_eq_of_lt few]
  have some_bit : BitVec.ofNat 52 m ≠ 0#52 := ofNat_ne_ofNat few (by decide) h.ne'
  rw [stored, UnpackedFloat.pack]
  dsimp only
  rw [biased_eq, if_neg (by decide), if_neg length, UnpackedFloat.unpack]
  simp only [unpackMantissa_packComponents, unpackExponent_packComponents, unpackSign_packComponents,
    Sign.ofBitVec_toBitVec, some_bit, same]
  rfl

theorem stored_normal (bits : m < 2 ^ 53) (normal : 2 ^ 52 ≤ m) (least : -1074 ≤ e)
    (most : e ≤ 971) (h : 0 < m) : stored (.finite s m e h) = .finite s m e h := by
  have length : m.log2 + 1 = binary64.mantissaBits := by
    show m.log2 + 1 = 53
    have := (Nat.le_log2 h.ne').mpr normal
    have := (Nat.log2_lt h.ne').mpr bits
    omega
  have same : (1#1 ++ BitVec.ofNat 52 m).toNat = m := by
    rw [toNat_append, BitVec.toNat_ofNat]
    omega
  have exponent : (BitVec.ofNat 11 (e + 1075).toNat).toNat = (e + 1075).toNat := by
    rw [BitVec.toNat_ofNat, Nat.mod_eq_of_lt (by omega)]
  have not_all : BitVec.ofNat 11 (e + 1075).toNat ≠ -1#11 :=
    ofNat_ne_ofNat (k := 2047) (by omega) (by decide) (by omega)
  have not_none : BitVec.ofNat 11 (e + 1075).toNat ≠ 0#11 :=
    ofNat_ne_ofNat (by omega) (by decide) (by omega)
  have back : ((e + 1075).toNat : Int) - (1023 + (52 : Nat)) = e := by omega
  have bias : (binary64.exponentBias : Int) = 1023 := rfl
  rw [stored, UnpackedFloat.pack]
  dsimp only
  rw [biased_eq, if_neg (by show ¬2048 ≤ _; omega), if_pos length, UnpackedFloat.unpack]
  simp only [unpackMantissa_packComponents, unpackExponent_packComponents, unpackSign_packComponents,
    Sign.ofBitVec_toBitVec, not_all, not_none, same, exponent, bias, if_false, back]

/-- A double is stored as it is in its canonical form. -/
theorem Canonical.stored_eq (h : Canonical m e) (most : e ≤ 971) :
    stored (.finite s m e h.pos) = .finite s m e h.pos := by
  by_cases normal : 2 ^ 52 ≤ m
  · exact stored_normal h.lt normal h.le_exponent most h.pos
  · obtain rfl := h.normal_or_least.resolve_left normal
    exact stored_subnormal (not_le.mp normal) h.pos

/-- What is read back of a rounded number: all of it, unless it is too large. -/
theorem stored_round (h : Approximates m x a) (small : e ≤ target m e) :
    stored (roundWithAccuracy binary64 s m e a) =
      if x * 2 ^ e < limit then roundWithAccuracy binary64 s m e a else .infinity s := by
  have bound := rounded_lt_iff h small
  obtain ⟨none_left, zero⟩ | ⟨m', e', pos, finite, canonical, value⟩ :=
    roundWithAccuracy_cases s a small
  · have below : x * 2 ^ e < limit := bound.mp (by rw [none_left, Nat.cast_zero, zero_mul]; positivity)
    rw [if_pos below, zero, stored_zero]
  · rw [← value, canonical.lt_iff] at bound
    rw [finite]
    split
    · rename_i below
      exact canonical.stored_eq (bound.mpr below)
    · rename_i above
      exact stored_large (not_le.mp (mt bound.mp above)) pos

end Packing

section Unpacking

/-- What is read from 64 bits has its canonical form. -/
theorem canonical_of_unpack {b : BitVec 64} {h : 0 < m}
    (unpacked : UnpackedFloat.unpack binary64 b = .finite s m e h) : Canonical m e ∧ e ≤ 971 := by
  have bias : (binary64.exponentBias : Int) = 1023 := rfl
  have bits : (binary64.mantissaBitsWithoutImplicit : Int) = 52 := rfl
  have mantissa : (@unpackMantissa binary64 b).toNat < 2 ^ 52 := BitVec.isLt _
  have exponent : (@unpackExponent binary64 b).toNat < 2 ^ 11 := BitVec.isLt _
  unfold UnpackedFloat.unpack at unpacked
  dsimp only at unpacked
  rw [bias, bits] at unpacked
  split at unpacked
  · split at unpacked <;> cases unpacked
  · rename_i not_all
    split at unpacked
    · rename_i none_set
      split at unpacked
      · cases unpacked
      · cases unpacked
        have least : (@unpackExponent binary64 b).toNat = 0 := congrArg BitVec.toNat none_set
        exact ⟨⟨h, by omega, by omega, .inr (by omega)⟩, by omega⟩
    · rename_i some_set
      cases unpacked
      have implicit := toNat_append (@unpackMantissa binary64 b)
      have low : (@unpackExponent binary64 b).toNat ≠ 0 :=
        fun zero => some_set (BitVec.eq_of_toNat_eq zero)
      have high : (@unpackExponent binary64 b).toNat ≠ 2047 :=
        fun all => not_all (BitVec.eq_of_toNat_eq all)
      exact ⟨⟨h, by omega, by omega, .inl (by omega)⟩, by omega⟩

/-- A sign does not make a double infinite. -/
theorem isFinite_neg (x : Float) : (-x).isFinite = x.isFinite := by
  show (stored x.toModel.unpack.neg).isFinite = x.toModel.unpack.isFinite
  cases unpacked : x.toModel.unpack with
  | infinity s =>
      show (stored (.infinity (-s))).isFinite = _
      rw [stored_infinity]
      rfl
  | notANumber => rfl
  | zero s =>
      show (stored (.zero (-s))).isFinite = _
      rw [stored_zero]
      rfl
  | finite s m e h =>
      obtain ⟨canonical, most⟩ := canonical_of_unpack unpacked
      show (stored (.finite (-s) m e h)).isFinite = _
      rw [canonical.stored_eq most]
      rfl

end Unpacking

end University.Double
