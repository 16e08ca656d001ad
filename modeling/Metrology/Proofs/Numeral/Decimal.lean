import Metrology.Proofs.Numeral.Return
import Metrology.Proofs.Numeral.Rounding

/-!
# Decimals as doubles

A decimal is converted to a double that is nearest to it, the even one of two, and to an infinity if
no double is near it (`Decimal.rounds_toFloat`). A whole number with no more digits than a double
has is converted exactly (`toFloat_whole`).
-/

namespace Metrology.Numeral

open Float.Model Float.Model.UnpackedFloat

/-! ## Numbers of doubles -/

theorem Representable.exists_double {q : ℚ} (h : Representable q) :
    ∃ z, isFinite z = true ∧ rational z = q := by
  obtain rfl | ⟨m, e, hc, hq⟩ := h
  · exact ⟨0.0, isFinite_zero, rational_zero⟩
  · obtain ⟨s, rfl⟩ : ∃ s, q = Numeral.onSide s (m * 2 ^ e) := by
      rcases abs_choice q with habs | habs
      · exact ⟨.positive, habs.symm.trans hq⟩
      · exact ⟨.negative, neg_eq_iff_eq_neg.1 (habs.symm.trans hq)⟩
    refine ⟨_, isFinite_pack (Proper.finite s hc).fits, ?_⟩
    rw [rational_pack (.finite s hc), exactly_finite]

/-- A number that is that of a double is rounded to it. -/
theorem Rounds.exact_of_representable {v : ℚ} {y : Float} (h : Rounds v y) (hv : Representable v) :
    isFinite y = true ∧ rational y = v := by
  obtain ⟨z, hz, hzv⟩ := hv.exists_double
  exact h.exact hz hzv

/-- Whole numbers with as many digits as a double has are numbers of doubles. -/
theorem representable_whole {M j : ℕ} (hM : M < 2 ^ 53) (hj : j ≤ 971) :
    Representable ((M * 2 ^ j : ℕ) : ℚ) := by
  rcases Nat.eq_zero_or_pos M with rfl | hpos
  · left
    simp
  · have hlog : M.log2 ≤ 52 := log2_le_of_lt hM
    -- the mantissa is filled up with zeros to 53 bits
    have hdigits : (M * 2 ^ (52 - M.log2)).log2 = 52 := by
      rw [log2_mul_pow hpos]
      omega
    have hpositive : 0 < M * 2 ^ (52 - M.log2) := by positivity
    have hbounds := (Nat.log2_eq_iff hpositive.ne').1 hdigits
    have hexponent : (j : ℤ) = (52 - M.log2 : ℕ) + (j - (52 - M.log2 : ℕ)) := by omega
    refine .inr ⟨M * 2 ^ (52 - M.log2), j - (52 - M.log2 : ℕ),
      ⟨hpositive, hbounds.2, by omega, by omega, .inl hbounds.1⟩, ?_⟩
    rw [abs_of_nonneg (by positivity), Nat.cast_mul, Nat.cast_mul, mul_assoc]
    congr 1
    push_cast
    rw [← zpow_natCast, ← zpow_natCast, ← zpow_add₀ two_ne_zero, ← hexponent]

/-! ## Whole numbers as doubles -/

/-- A magnitude is rounded from all its digits. -/
theorem rounds_round (s : Sign) {m : ℕ} (hm : 0 < m) (e : ℤ) :
    Rounds (onSide s (m * 2 ^ e))
      (Float.ofModel (Float.Model.pack (UnpackedFloat.round Format.binary64 s m e))) := by
  obtain ⟨k, hk⟩ : ∃ k, k = (e - Format.binary64.targetExponent (totalExponent m e)).toNat :=
    ⟨_, rfl⟩
  have hround : UnpackedFloat.round Format.binary64 s m e =
      roundWithAccuracy Format.binary64 s (m <<< k) (e - k) .exact := by
    rw [hk]
    rfl
  have hscale : (m : ℚ) * 2 ^ e = (m <<< k : ℕ) * 2 ^ (e - k) := by
    rw [Nat.shiftLeft_eq, Nat.cast_mul, mul_assoc, Nat.cast_pow, Nat.cast_ofNat, ← zpow_natCast,
      ← zpow_add₀ two_ne_zero, add_sub_cancel]
  rw [hround, hscale]
  refine rounds_roundWithAccuracy s (lies_exact _) ?_
  rw [targetExponent_eq] at hk
  by_cases hdeep : e - k ≤ -1074
  · exact .inl hdeep
  · -- the digits begin with the first one that is not zero
    right
    have hdigits : 52 ≤ (m <<< k).log2 := by
      rw [Nat.shiftLeft_eq, log2_mul_pow hm]
      omega
    exact (Nat.le_log2 (by rw [Nat.shiftLeft_eq]; positivity)).1 hdigits

/-- A whole number of 64 bits is rounded. -/
theorem rounds_toFloat (n : UInt64) : Rounds n.toNat n.toFloat := by
  show Rounds _ (Float.ofModel (Float.Model.pack
    (UnpackedFloat.normalize Format.binary64 n.toNat 0 .positive)))
  rcases Nat.eq_zero_or_pos n.toNat with hzero | hpos
  · rw [hzero]
    exact rounds_zero .positive
  · have hcompare : compare (n.toNat : ℤ) 0 = .gt := Int.compare_eq_gt.2 (by omega)
    have hround := rounds_round .positive hpos 0
    rw [zpow_zero, mul_one] at hround
    rw [UnpackedFloat.normalize, hcompare]
    exact hround

/-- The table of powers of ten holds them exactly. -/
theorem rational_powerOfTen : ∀ p, ∀ h : p < Float.exactlyRepresentablePowersOfTen.size,
    isFinite Float.exactlyRepresentablePowersOfTen[p] = true ∧
      rational Float.exactlyRepresentablePowersOfTen[p] = 10 ^ p := by
  decide +kernel

/-- A whole number with no more digits than a double is converted exactly. -/
theorem toFloat_toUInt64 {n : ℕ} (hn : n < 2 ^ 53) :
    isFinite n.toUInt64.toFloat = true ∧ rational n.toUInt64.toFloat = n := by
  have hword : n.toUInt64.toNat = n := Nat.mod_eq_of_lt (by omega)
  have hround := rounds_toFloat n.toUInt64
  have hrepresentable := representable_whole (j := 0) hn (by decide)
  rw [hword] at hround
  rw [pow_zero, mul_one] at hrepresentable
  exact hround.exact_of_representable hrepresentable

/-- Digits before the point are rounded to a double. -/
theorem rounds_ofScientific {n p : ℕ} (hn : 0 < n) (hp : p ≤ 2048) :
    Rounds ((n : ℚ) * 10 ^ p) (Float.ofScientific n false p) := by
  unfold Float.ofScientific
  split
  · rename_i hsmall
    obtain ⟨hfinite, hrational⟩ := toFloat_toUInt64 hsmall.1
    obtain ⟨hten, hrational'⟩ := rational_powerOfTen p (Nat.lt_succ_of_le hsmall.2)
    have hround := rounds_mul hfinite hten
    rw [hrational, hrational'] at hround
    exact hround
  · show Rounds _ (Float.ofModel (Float.Model.pack
      (UnpackedFloat.ofScientific Format.binary64 n (Int.ofNat p))))
    have hbits : (Format.binary64.exponentBits : ℕ) = 11 := rfl
    unfold UnpackedFloat.ofScientific
    rw [hbits, Int.ofNat_eq_natCast, dif_neg hn.ne', if_neg (by omega), if_neg (by omega),
      if_pos (by omega)]
    -- digits are added behind the point, which leaves the number as it is
    have hscale : onSide (.positive * .positive) ((n <<< 53 * 10 ^ p : ℕ) * 2 ^ (-53 + 0 : ℤ)) =
        (n : ℚ) * 10 ^ p := by
      show ((n <<< 53 * 10 ^ p : ℕ) : ℚ) * 2 ^ (-53 + 0 : ℤ) = n * 10 ^ p
      rw [Nat.shiftLeft_eq]
      push_cast
      norm_num
      ring
    have hdigits : 2 ^ 52 ≤ n <<< 53 * 10 ^ p := by
      have hten : 0 < 10 ^ p := by positivity
      rw [Nat.shiftLeft_eq]
      exact (by omega : 2 ^ 52 ≤ n * 2 ^ 53).trans (Nat.le_mul_of_pos_right _ hten)
    have hround := rounds_roundWithAccuracy (e := -53 + 0) (.positive * .positive)
      (lies_exact (n <<< 53 * 10 ^ p)) (.inr hdigits)
    rw [hscale] at hround
    exact hround

/-- A decimal fraction is rounded to a double. -/
theorem rounds_decimalFraction {n p : ℕ} (hn : 0 < n) (hp : 0 < p) (hp' : p ≤ 2048) :
    Rounds ((n : ℚ) / 10 ^ p) (Float.ofScientific n true p) := by
  unfold Float.ofScientific
  split
  · rename_i hsmall
    -- both are exact doubles, so only the division rounds
    obtain ⟨hfinite, hrational⟩ := toFloat_toUInt64 hsmall.1
    obtain ⟨hten, hrational'⟩ := rational_powerOfTen p (Nat.lt_succ_of_le hsmall.2)
    have hround := rounds_div hfinite hten (by rw [hrational']; positivity)
    rw [hrational, hrational'] at hround
    exact hround
  · show Rounds _ (Float.ofModel (Float.Model.pack
      (UnpackedFloat.ofScientific Format.binary64 n (Int.negOfNat p))))
    -- otherwise the exact quotient is rounded once
    have hbits : (Format.binary64.exponentBits : ℕ) = 11 := rfl
    have hneg : Int.negOfNat p = -(p : ℤ) := Int.negOfNat_eq
    have hexponent : (-(-(p : ℤ))).toNat = p := by omega
    unfold UnpackedFloat.ofScientific
    rw [hbits, hneg, dif_neg hn.ne', if_neg (by omega), if_neg (by omega), if_neg (by omega)]
    simp only [hexponent]
    have hten : 0 < 10 ^ p := by positivity
    have hround := rounds_div_finite .positive .positive hn hten 0 0
    simp only [onSide, zpow_zero, mul_one] at hround
    push_cast at hround
    exact hround

/-! ## Decimals -/

/-- The number that a decimal is. -/
def Decimal.rational (d : Decimal) : ℚ :=
  d.digits * 10 ^ d.exponent

/-- A decimal within the range of the conversion is rounded to a double. -/
theorem Decimal.rounds_toFloat {d : Decimal} (hpos : 0 < d.digits) (hleast : -2048 ≤ d.exponent)
    (hlow : -330 ≤ d.exponent + digitCount d.digits)
    (hhigh : d.exponent + digitCount d.digits ≤ 320) : Rounds d.rational d.toFloat := by
  obtain ⟨digits, exponent⟩ := d
  dsimp only at hpos hleast hlow hhigh
  have hzero : ¬(digits == 0) = true := by simpa using hpos.ne'
  unfold Decimal.toFloat Decimal.rational
  dsimp only
  -- the decimal is in the range in which nothing is cut off
  rw [if_neg hzero, if_neg (by omega), if_neg (by omega)]
  by_cases hsign : exponent < 0
  · obtain ⟨p, rfl⟩ : ∃ p : ℕ, exponent = -p := ⟨exponent.natAbs, by omega⟩
    rw [decide_eq_true hsign, Int.natAbs_neg, Int.natAbs_natCast, zpow_neg, zpow_natCast,
      ← div_eq_mul_inv]
    exact rounds_decimalFraction hpos (by omega) (by omega)
  · obtain ⟨p, rfl⟩ : ∃ p : ℕ, exponent = p := ⟨exponent.natAbs, by omega⟩
    rw [decide_eq_false hsign, Int.natAbs_natCast, zpow_natCast]
    exact rounds_ofScientific hpos (by omega)

/-- A decimal that comes of rounding a double is rounded to a double again. -/
theorem rounds_decimal {digits p : ℕ} (h : Rounded digits p) (hp : p ≤ 323) :
    Rounds ((digits : ℚ) / 10 ^ p) (Decimal.toFloat ⟨digits, -p⟩) := by
  have hcount := h.digitCount_le
  rcases Nat.eq_zero_or_pos digits with rfl | hpos
  · rw [Nat.cast_zero, zero_div]
    exact rounds_zero .positive
  · have hround := Decimal.rounds_toFloat (d := ⟨digits, -p⟩) hpos (by dsimp only; omega)
      (by dsimp only; omega) (by dsimp only; omega)
    rwa [Decimal.rational, zpow_neg, zpow_natCast, ← div_eq_mul_inv] at hround

/-- Whole numbers that are numbers of doubles are converted exactly. -/
theorem toFloat_whole {n : ℕ} (h : Rounded n 0) :
    isFinite (Decimal.toFloat ⟨n, 0⟩) = true ∧ rational (Decimal.toFloat ⟨n, 0⟩) = n := by
  obtain ⟨M, j, hM, hj, heq⟩ := h.eq_of_whole
  have hround := rounds_decimal h (Nat.zero_le _)
  rw [pow_zero, div_one] at hround
  exact hround.exact_of_representable (heq ▸ representable_whole hM hj)

end Metrology.Numeral
