import Metrology.Proofs.Numeral.Shortest
import Metrology.Proofs.Numeral.Truncation

/-!
# Doubles that are written are read back

The notation of a finite double is a literal for its shortest decimal, which the double covers. So
the literal is rounded to the same number, and with the sign it is the same double (`reread_eq`).
-/

namespace Metrology.Numeral

open Float.Model Float.Model.UnpackedFloat

/-! ## The range of decimals -/

variable {d : Decimal}

/-- A decimal is less than the power of ten that its digits reach up to. -/
theorem rational_lt_ten_pow (d : Decimal) :
    d.rational < 10 ^ (d.exponent + digitCount d.digits) := by
  have hcount : 0 < digitCount d.digits := List.length_pos_iff.2 Nat.toDigits_ne_nil
  have hdigits : d.digits < 10 ^ digitCount d.digits :=
    (Nat.length_toDigits_le_iff (by decide) hcount).1 le_rfl
  rw [Decimal.rational, zpow_add₀ (by norm_num), mul_comm, zpow_natCast]
  exact mul_lt_mul_of_pos_left (by exact_mod_cast hdigits) (by positivity)

/-- A decimal is at least the power of ten of its first digit. -/
theorem ten_pow_le_rational (h : 0 < d.digits) :
    10 ^ (d.exponent + digitCount d.digits - 1) ≤ d.rational := by
  have hcount : 0 < digitCount d.digits := List.length_pos_iff.2 Nat.toDigits_ne_nil
  have hdigits : 10 ^ (digitCount d.digits - 1) ≤ d.digits := by
    rcases Nat.eq_zero_or_pos (digitCount d.digits - 1) with hone | hmany
    · rw [hone]
      exact h
    · by_contra hlt
      have := (Nat.length_toDigits_le_iff (by decide) hmany).2 (not_le.1 hlt)
      rw [digitCount] at *
      omega
  rw [Decimal.rational, add_sub_assoc, zpow_add₀ (by norm_num), mul_comm,
    show (digitCount d.digits : ℤ) - 1 = (digitCount d.digits - 1 : ℕ) by omega, zpow_natCast]
  exact mul_le_mul_of_nonneg_right (by exact_mod_cast hdigits) (by positivity)

/-- A decimal in the range of doubles is rounded to a double, unless its last place is far below
theirs. -/
theorem Decimal.rounds_of_range (hleast : -2048 ≤ d.exponent) (hlow : 2 ^ (-1075 : ℤ) ≤ d.rational)
    (hhigh : d.rational < beyond) : Rounds d.rational d.toFloat := by
  have hpos : 0 < d.digits := by
    refine Nat.pos_of_ne_zero fun hzero => ?_
    rw [rational, hzero, Nat.cast_zero, zero_mul] at hlow
    exact absurd hlow (not_le.2 (by positivity))
  refine rounds_toFloat hpos hleast ?_ ?_
  · by_contra hsmall
    -- were it so small, it would be below the smallest half
    have hpow : ((2 ^ 1075 : ℕ) : ℚ) ≤ (10 ^ 331 : ℕ) := Nat.cast_le.2 (by decide +kernel)
    rw [Nat.cast_pow, Nat.cast_pow, Nat.cast_ofNat, Nat.cast_ofNat] at hpow
    have hten : (10 : ℚ) ^ (d.exponent + digitCount d.digits) ≤ 10 ^ (-(331 : ℕ) : ℤ) :=
      zpow_le_zpow_right₀ (by norm_num) (by omega)
    have htwo : (10 : ℚ) ^ (-(331 : ℕ) : ℤ) ≤ 2 ^ (-(1075 : ℕ) : ℤ) := by
      rw [zpow_neg, zpow_neg, zpow_natCast, zpow_natCast]
      exact inv_anti₀ (by positivity) hpow
    exact absurd (hlow.trans_lt (rational_lt_ten_pow d)) (not_lt.2 (hten.trans htwo))
  · by_contra hlarge
    -- were it so large, it would be beyond the bound
    have hpow : ((2 ^ (53 + 971) : ℕ) : ℚ) ≤ (10 ^ 320 : ℕ) := Nat.cast_le.2 (by decide +kernel)
    rw [Nat.cast_pow, Nat.cast_pow, Nat.cast_ofNat, Nat.cast_ofNat, pow_add] at hpow
    have hten : (10 : ℚ) ^ ((320 : ℕ) : ℤ) ≤ 10 ^ (d.exponent + digitCount d.digits - 1) :=
      zpow_le_zpow_right₀ (by norm_num) (by omega)
    have hbeyond : beyond ≤ 2 ^ 53 * 2 ^ 971 := by
      rw [beyond, show (971 : ℤ) = (971 : ℕ) from rfl, zpow_natCast]
      exact mul_le_mul_of_nonneg_right (by norm_num) (by positivity)
    rw [zpow_natCast] at hten
    have hle := ((hbeyond.trans hpow).trans hten).trans (ten_pow_le_rational hpos)
    exact absurd hhigh (not_lt.2 hle)

/-! ## Doubles by what they are -/

variable {x y : Float}

/-- The bits of a double that is a number are told by its sign, its exponent and its fraction. -/
theorem eq_of_fields {b c : BitVec 64}
    (hexponent : b.toNat / 2 ^ 52 % 2 ^ 11 = c.toNat / 2 ^ 52 % 2 ^ 11)
    (hfraction : b.toNat % 2 ^ 52 = c.toNat % 2 ^ 52)
    (hsign : Sign.ofBitVec (@unpackSign Format.binary64 b) =
      Sign.ofBitVec (@unpackSign Format.binary64 c)) : b = c := by
  have hsigns : (b.toNat / 2 ^ 63 = 1) ↔ (c.toNat / 2 ^ 63 = 1) := by
    rw [← toNat_unpackSign, ← toNat_unpackSign, ← decide_eq_decide, ← beq_sign, ← beq_sign, hsign]
  refine BitVec.eq_of_toNat_eq ?_
  have hb := b.isLt
  have hc := c.isLt
  omega

/-- There is one double that is not a number. -/
theorem eq_packedNaN {b : BitVec 64} (hb : Format.binary64.Valid b)
    (hexponent : b.toNat / 2 ^ 52 % 2 ^ 11 = 2047) (hfraction : b.toNat % 2 ^ 52 ≠ 0) :
    b = packedNaN Format.binary64 := by
  refine hb.eq_packedNaN (BitVec.eq_of_toNat_eq ?_) fun hzero => hfraction ?_
  · rw [toNat_unpackExponent, hexponent]
    rfl
  · rw [← toNat_unpackMantissa, hzero]
    rfl

/-- A double is told by what it unpacks to. -/
theorem eq_of_unpack_eq (h : x.toModel.unpack = y.toModel.unpack) : x = y := by
  obtain ⟨⟨⟨b⟩, hb⟩⟩ := x
  obtain ⟨⟨⟨c⟩, hc⟩⟩ := y
  change UnpackedFloat.unpack Format.binary64 b = UnpackedFloat.unpack Format.binary64 c at h
  suffices hbits : b = c by
    subst hbits
    rfl
  have hsame := eq_of_fields (b := b) (c := c)
  have hnotANumber := eq_packedNaN hb
  have hnotANumber' := eq_packedNaN hc
  have hreads := reads_unpack b
  have hreads' := reads_unpack c
  have hlt := Nat.mod_lt b.toNat (by decide : 0 < 2 ^ 52)
  have hlt' := Nat.mod_lt c.toNat (by decide : 0 < 2 ^ 52)
  rw [h] at hreads
  -- what is left depends on the fields only
  generalize UnpackedFloat.unpack Format.binary64 c = u, b.toNat / 2 ^ 52 % 2 ^ 11 = exponent,
    c.toNat / 2 ^ 52 % 2 ^ 11 = exponent', b.toNat % 2 ^ 52 = fraction,
    c.toNat % 2 ^ 52 = fraction', Sign.ofBitVec (@unpackSign Format.binary64 b) = s,
    Sign.ofBitVec (@unpackSign Format.binary64 c) = s' at *
  cases hreads with
  | infinity he hf =>
    cases hreads' with
    | infinity he' hf' => exact hsame (by omega) (by omega) rfl
  | notANumber he hf =>
    cases hreads' with
    | notANumber he' hf' => exact (hnotANumber he hf).trans (hnotANumber' he' hf').symm
  | zero he hf =>
    cases hreads' with
    | zero he' hf' => exact hsame (by omega) (by omega) rfl
  | subnormal he hf heq =>
    cases hreads' with
    | subnormal he' hf' heq' => exact hsame (by omega) (by omega) rfl
    | normal he₀ he' hm' hmeq' heq' => omega
  | normal he he' hm hmeq heq =>
    cases hreads' with
    | subnormal he₀ hf' heq' => omega
    | normal he₀ he₁ hm' hmeq' heq' => exact hsame (by omega) (by omega) rfl

/-- A finite double is the one that is the same number, unless it is zero. -/
theorem eq_of_rational_eq (hx : isFinite x = true) (hy : isFinite y = true) (hne : rational x ≠ 0)
    (h : rational x = rational y) : x = y := by
  rw [rational_eq_exactly, rational_eq_exactly] at h
  rw [rational_eq_exactly] at hne
  obtain heq | ⟨a, b, ha, -⟩ :=
    eq_or_zero_of_exactly_eq (proper_of_isFinite hx) (proper_of_isFinite hy) h
  · exact eq_of_unpack_eq heq
  · rw [ha] at hne
    exact absurd rfl hne

theorem rational_one : isFinite 1.0 = true ∧ rational 1.0 = 1 := by
  have hanatomy : anatomy 1.0 = .finite false ⟨2 ^ 52, -52, true⟩ := by decide +kernel
  rw [isFinite, rational, hanatomy]
  norm_num [Binary.rational]

/-- One times a double is the double. -/
theorem one_mul_eq (x : Float) : 1.0 * x = x := by
  have hmul : (1.0 * x).toModel.unpack = (Float.Model.pack (UnpackedFloat.mul Format.binary64
    (1.0 : Float).toModel.unpack x.toModel.unpack)).unpack := rfl
  have hone : (1.0 : Float).toModel.unpack = .finite .positive (2 ^ 52) (-52) (by decide) := rfl
  cases hx : x.toModel.unpack with
  | finite s m e hm =>
    -- the product is a double itself, so it is not rounded
    have hfinite : isFinite x = true := by
      rw [isFinite, anatomy_eq, hx]
      rfl
    have hrounds := rounds_mul rational_one.1 hfinite
    rw [rational_one.2, one_mul] at hrounds
    obtain ⟨hproduct, hrational⟩ := hrounds.exact hfinite rfl
    refine eq_of_rational_eq hproduct hfinite ?_ hrational
    rw [hrational, rational_eq_exactly, hx]
    exact exactly_ne_zero hm
  | _ =>
    refine eq_of_unpack_eq (hmul.trans ?_)
    rw [hone, hx]
    first | rfl | (rename_i s; cases s <;> rfl)

/-! ## Reading back -/

theorem unpack_signed_zero (s : Sign) :
    (signed (s == .negative) 0.0).toModel.unpack = .zero s := by
  cases s <;> rfl

/-- Zeros at the end do not change what a decimal stands for. -/
theorem Decimal.rational_eq_of_padded {c : Decimal} {j k : ℕ} (h : d.padded j = c.padded k) :
    d.rational = c.rational := by
  rw [← d.rational_padded j, h, c.rational_padded]

/-- The least half between doubles. -/
theorem least_le_low {m : ℕ} {e : ℤ} (hc : Canonical m e) :
    2 ^ (-1075 : ℤ) ≤ (magnitude m e).low := by
  have hpos := hc.pos
  have hunit : (2 : ℚ) ^ (-1076 : ℤ) ≤ 2 ^ (e - 2) :=
    zpow_le_zpow_right₀ (by norm_num) (by have := hc.least; omega)
  have hquarters : (2 : ℚ) ≤
      (if (magnitude m e).narrowBelow then 4 * m - 1 else 4 * m - 2 : ℕ) := by
    have htwo : 2 ≤ if (magnitude m e).narrowBelow then 4 * m - 1 else 4 * m - 2 := by
      split <;> omega
    exact_mod_cast htwo
  calc (2 : ℚ) ^ (-1075 : ℤ) = 2 * 2 ^ (-1076 : ℤ) := by
        rw [show (-1075 : ℤ) = 1 + -1076 by norm_num, zpow_add₀ two_ne_zero, zpow_one]
    _ ≤ _ := mul_le_mul hquarters hunit (by positivity) (by positivity)

/-- The literal that a double is written as is rounded to its magnitude. -/
theorem rational_toFloat {m : ℕ} {e : ℤ} (hc : Canonical m e) {j k : ℕ}
    (hpadded : d.padded j = (magnitude m e).shortest.padded k)
    (hleast : min (magnitude m e).shortest.exponent (-1) ≤ d.exponent) :
    isFinite d.toFloat = true ∧ rational d.toFloat = m * 2 ^ e := by
  obtain ⟨hcovers, hexponent⟩ := covers_shortest (b := magnitude m e) hc.pos hc.least
  rw [← Decimal.rational_eq_of_padded hpadded] at hcovers
  have hlow := (least_le_low hc).trans hcovers.low_le
  have hlt := (le_abs_self _).trans_lt (abs_lt_beyond_of_covers hc hcovers)
  exact (Decimal.rounds_of_range (by omega) hlow hlt).rational_of_covers hc hcovers

/-- A finite double is read back from its notation. -/
theorem reread_eq (h : isFinite x = true) : reread x = x := by
  have hproper := proper_of_isFinite h
  have hrational := rational_eq_exactly x
  have hanatomy := anatomy_eq x
  generalize hu : x.toModel.unpack = u at hproper hrational hanatomy
  cases hproper with
  | zero s =>
    -- a zero keeps its sign, which its value does not tell
    obtain ⟨d, j, k, hl, hpadded, -⟩ := literal?_plainText hanatomy
    have hdigits : d.digits = 0 := by
      have hproduct : d.digits * 10 ^ j = 0 * 10 ^ k := congrArg Decimal.digits hpadded
      simpa using hproduct
    have hread : reread x = signed (s == .negative) 0.0 := by
      rw [reread_of_literal? hl, Literal.toFloat, Decimal.toFloat, if_pos (by simpa using hdigits)]
    rw [hread]
    exact eq_of_unpack_eq ((unpack_signed_zero s).trans hu.symm)
  | finite s hc =>
    obtain ⟨d, j, k, hl, hpadded, hleast⟩ := literal?_plainText hanatomy
    -- the shortest digits are rounded to the double they were found for
    obtain ⟨hfinite, hvalue⟩ := rational_toFloat hc hpadded hleast
    have hsigned : rational (signed (s == .negative) d.toFloat) = rational x := by
      rw [rational_signed _ hfinite, hvalue, hrational, exactly_finite]
      cases s <;> rfl
    rw [reread_of_literal? hl, Literal.toFloat]
    refine eq_of_rational_eq (isFinite_signed _ hfinite) h ?_ hsigned
    rw [hsigned, hrational]
    exact exactly_ne_zero hc.pos

end Metrology.Numeral
