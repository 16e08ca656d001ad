import Metrology.Proofs.Numeral.Decimal

/-!
# Whole parts of doubles

The whole part of a finite double is the double without its fraction: the whole number next to it
toward zero, which is the number of a double again (`wholePart_of_isFinite`).
-/

namespace Metrology.Numeral

open Float.Model Float.Model.UnpackedFloat

/-! ## Signs -/

variable {x : Float}

/-- The opposite double is the opposite number. -/
theorem rational_neg (h : isFinite x = true) : rational (-x) = -rational x := by
  show rational (Float.ofModel (Float.Model.pack (UnpackedFloat.neg x.toModel.unpack))) = _
  have hproper := proper_of_isFinite h
  rw [rational_eq_exactly x]
  generalize x.toModel.unpack = u at hproper ⊢
  cases hproper with
  | zero s =>
    refine (rational_pack (.zero (-s))).trans ?_
    exact neg_zero.symm
  | finite s hc =>
    refine (rational_pack (.finite (-s) hc)).trans ?_
    rw [exactly_finite, exactly_finite]
    cases s with
    | positive => rfl
    | negative => exact (neg_neg _).symm

/-- The sign turns the value around. -/
theorem rational_signed (negative : Bool) (h : isFinite x = true) :
    rational (signed negative x) = if negative then -rational x else rational x := by
  cases negative with
  | true => exact rational_neg h
  | false => rfl

/-! ## Whole parts -/

/-- The whole number next to a number, toward zero. -/
def towardZero (q : ℚ) : ℤ :=
  if 0 ≤ q then ⌊q⌋ else ⌈q⌉

/-- Rounding toward zero is the same on both sides. -/
theorem towardZero_neg (q : ℚ) : towardZero (-q) = -towardZero q := by
  rcases lt_trichotomy q 0 with hlt | rfl | hgt
  · rw [towardZero, towardZero, if_pos (by linarith), if_neg (by linarith), Int.floor_neg]
  · simp [towardZero]
  · rw [towardZero, towardZero, if_neg (by linarith), if_pos hgt.le, Int.ceil_neg]

theorem wholePart_of_nonneg {b : Binary} (h : 0 ≤ b.exponent) :
    b.wholePart = b.mantissa * 2 ^ b.exponent.toNat := by
  have hzero : (-b.exponent).toNat = 0 := by omega
  show b.mantissa * 2 ^ b.exponent.toNat * 10 ^ 0 / (2 ^ (-b.exponent).toNat * 10 ^ 0) = _
  rw [hzero, pow_zero, pow_zero, mul_one, mul_one, Nat.div_one]

theorem wholePart_of_nonpos {b : Binary} (h : b.exponent ≤ 0) :
    b.wholePart = b.mantissa / 2 ^ (-b.exponent).toNat := by
  have hzero : b.exponent.toNat = 0 := by omega
  show b.mantissa * 2 ^ b.exponent.toNat * 10 ^ 0 / (2 ^ (-b.exponent).toNat * 10 ^ 0) = _
  rw [hzero, pow_zero, pow_zero, mul_one, mul_one, mul_one]

/-- The whole part of a magnitude is the largest whole number that is not larger. -/
theorem wholePart_eq_floor (b : Binary) : b.wholePart = ⌊b.rational⌋₊ := by
  unfold Binary.rational
  rcases le_total 0 b.exponent with h | h
  · have hexponent : b.exponent = (b.exponent.toNat : ℤ) := by omega
    rw [wholePart_of_nonneg h, hexponent, Int.toNat_natCast, zpow_natCast]
    exact_mod_cast (Nat.floor_natCast _).symm
  · have hexponent : b.exponent = -((-b.exponent).toNat : ℤ) := by omega
    rw [wholePart_of_nonpos h, hexponent, zpow_neg, zpow_natCast, ← div_eq_mul_inv, neg_neg,
      Int.toNat_natCast]
    have hfloor := Nat.floor_div_eq_div (K := ℚ) b.mantissa (2 ^ (-b.exponent).toNat)
    rw [← hfloor, Nat.cast_pow, Nat.cast_ofNat]

/-- The whole part of a magnitude of a double is the number of a double. -/
theorem rounded_wholePart {b : Binary} (hm : b.mantissa < 2 ^ 53) (he : b.exponent ≤ 971) :
    Rounded b.wholePart 0 := by
  rcases le_or_gt 0 b.exponent with h | h
  · refine .whole hm (j := b.exponent.toNat) (by omega) ?_
    rw [wholePart_of_nonneg h, pow_zero, mul_one]
  · obtain ⟨k, hk⟩ : ∃ k, (-b.exponent).toNat = k + 1 := ⟨(-b.exponent).toNat - 1, by omega⟩
    refine .small ?_
    rw [wholePart_of_nonpos h.le, hk, pow_zero, mul_one]
    -- the last digit at least is behind the point
    calc b.mantissa / 2 ^ (k + 1) ≤ b.mantissa / 2 :=
          Nat.div_le_div_left (Nat.le_self_pow (by omega) 2) two_pos
      _ ≤ 2 ^ 52 := by omega

/-- Truncating a finite double rounds its value toward zero. -/
theorem truncate?_of_finite {negative : Bool} {b : Binary} (hx : anatomy x = .finite negative b) :
    truncate? x = some (if negative then -(b.wholePart : ℤ) else b.wholePart) ∧
      (if negative then -(b.wholePart : ℤ) else b.wholePart) = towardZero (rational x) := by
  have hnonneg : 0 ≤ b.rational := by
    unfold Binary.rational
    positivity
  have hwhole : (b.wholePart : ℤ) = towardZero b.rational := by
    rw [wholePart_eq_floor, towardZero, if_pos hnonneg, Int.natCast_floor_eq_floor hnonneg]
  rw [truncate?, rational, hx]
  refine ⟨rfl, ?_⟩
  cases negative with
  | true => exact (congrArg Neg.neg hwhole).trans (towardZero_neg _).symm
  | false => exact hwhole

/-- A whole number that is the number of a double is made that double. -/
theorem exists_ofWhole? {n : ℤ} (h : Rounded n.natAbs 0) :
    ∃ y, ofWhole? n = some y ∧ isFinite y = true ∧ rational y = n := by
  obtain ⟨hfinite, hrational⟩ := toFloat_whole h
  refine ⟨_, if_pos hfinite, isFinite_signed _ hfinite, ?_⟩
  rw [rational_signed _ hfinite, hrational, Nat.cast_natAbs]
  by_cases hneg : n < 0
  · rw [if_pos (decide_eq_true hneg), abs_of_neg hneg, Int.cast_neg, neg_neg]
  · rw [if_neg (by simpa using hneg), abs_of_nonneg (not_lt.1 hneg)]

/-- The whole part of a finite double is finite, and it is the whole number next to the double,
toward zero. -/
theorem wholePart_of_isFinite (h : isFinite x = true) :
    isFinite (wholePart x) = true ∧ rational (wholePart x) = towardZero (rational x) := by
  obtain ⟨negative, b, hb⟩ := exists_anatomy_of_isFinite h
  obtain ⟨hm, he⟩ := anatomy_bounds hb
  obtain ⟨htruncate, htoward⟩ := truncate?_of_finite hb
  rw [htoward] at htruncate
  have hrounded : Rounded (towardZero (rational x)).natAbs 0 := by
    rw [← htoward]
    cases negative with
    | true =>
      rw [if_pos rfl, Int.natAbs_neg, Int.natAbs_natCast]
      exact rounded_wholePart hm he
    | false => exact rounded_wholePart hm he
  obtain ⟨y, hy, hfinite, hrational⟩ := exists_ofWhole? hrounded
  have hwhole : wholePart x = y := by
    rw [wholePart, htruncate]
    dsimp only
    rw [hy]
    rfl
  rw [hwhole]
  exact ⟨hfinite, hrational⟩

/-- What is not finite has no whole part and stays. -/
theorem wholePart_of_not_isFinite (h : isFinite x = false) : wholePart x = x := by
  have hnone : truncate? x = none := by
    unfold isFinite at h
    unfold truncate?
    cases hx : anatomy x with
    | finite negative b =>
      rw [hx] at h
      cases h
    | notANumber => rfl
    | infinite negative => rfl
  rw [wholePart, hnone]

end Metrology.Numeral
