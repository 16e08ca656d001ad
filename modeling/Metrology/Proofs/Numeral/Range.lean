import Metrology.Proofs.Numeral.Double

/-!
# The range of doubles

Which results of arithmetic are numbers. A result is finite where its exponent is in the range of
doubles (`isFinite_pack`): quotients far below the largest double are, and so are products and
quotients that need no more digits than a double has. A product of finite doubles and a quotient by
a finite double other than zero are numbers, if not infinite (`isNaN_mul`, `isNaN_div`).
-/

namespace Metrology.Numeral

open Float.Model Float.Model.UnpackedFloat

/-! ## What can be packed -/

/-- The unpacked double is a number, and not too large for a double. -/
def Fits : UnpackedFloat → Prop
  | .zero _ => True
  | .finite _ _ e _ => e ≤ 971
  | _ => False

/-- A double is finite unless its exponent field is full. -/
theorem isFinite_of_unpackExponent_ne {x : Float}
    (h : @unpackExponent Format.binary64 x.toModel.toBits.toBitVec ≠ -1#11) :
    isFinite x = true := by
  -- only a full exponent field is read as an infinity or as no number
  have hfield : x.toModel.toBits.toBitVec.toNat / 2 ^ 52 % 2 ^ 11 ≠ 2047 := by
    rw [← toNat_unpackExponent]
    exact fun he => h (BitVec.eq_of_toNat_eq he)
  have hreads := reads_unpack x.toModel.toBits.toBitVec
  change Reads _ _ _ x.toModel.unpack at hreads
  unfold isFinite
  rw [anatomy_eq]
  generalize x.toModel.unpack = u at hreads ⊢
  cases hreads with
  | infinity he hf => exact absurd he hfield
  | notANumber he hf => exact absurd he hfield
  | zero he hf => rfl
  | subnormal he hf heq => rfl
  | normal he he' hm hmeq heq => rfl

/-- What fits is packed into a finite double. -/
theorem isFinite_pack {u : UnpackedFloat} (h : Fits u) :
    isFinite (Float.ofModel (Float.Model.pack u)) = true := by
  refine isFinite_of_unpackExponent_ne ?_
  show unpackExponent (UnpackedFloat.pack Format.binary64 u) ≠ _
  cases u with
  | notANumber => exact h.elim
  | infinity s => exact h.elim
  | zero s =>
    rw [UnpackedFloat.pack, packedZero, unpackExponent_packComponents]
    decide
  | finite s m e hm =>
    have he : e ≤ 971 := h
    -- the exponent field stays below its last value
    have hbiased : (e + (Format.exponentBias Format.binary64 : Int) + (52 : Nat)).toNat + 1 <
        2 ^ 11 := by
      have hbias : Format.exponentBias Format.binary64 = 1023 := by decide
      rw [hbias]
      omega
    unfold UnpackedFloat.pack
    dsimp only
    rw [if_neg (by omega)]
    split
    · rw [unpackExponent_packComponents]
      intro hspecial
      have hnat := congrArg BitVec.toNat hspecial
      rw [BitVec.toNat_ofNat, Nat.mod_eq_of_lt (by omega)] at hnat
      have hmax : (-1#11).toNat = 2047 := by decide
      omega
    · rw [unpackExponent_packComponents]
      decide

/-! ## Rounding to the digits of a double -/

/-- Shifting divides the mantissa and drops the remainder. -/
theorem mantissa_shiftRight (em : ExtendedMantissa) (k : Nat) :
    (em >>> k).mantissa = em.mantissa / 2 ^ k := by
  induction k with
  | zero => exact (Nat.div_one _).symm
  | succ k ih =>
    show (em >>> k).mantissa / 2 = _
    rw [ih, Nat.div_div_eq_div_mul, pow_succ]

/-- Rounding goes up by one at most. -/
theorem roundedMantissa_le (em : ExtendedMantissa) : em.roundedMantissa ≤ em.mantissa + 1 := by
  obtain ⟨m, r, s⟩ := em
  cases r <;> cases s <;>
    simp only [ExtendedMantissa.roundedMantissa, ExtendedMantissa.accuracy,
      Accuracy.roundToNearestEven] <;> omega

/-- Zeros that are shifted out leave nothing to round. -/
theorem shiftRight_exact {M j k : Nat} (h : k ≤ j) :
    ((⟨M * 2 ^ j, false, false⟩ : ExtendedMantissa) >>> k) = ⟨M * 2 ^ (j - k), false, false⟩ := by
  induction k with
  | zero => rfl
  | succ k ih =>
    show ExtendedMantissa.shiftRightOne ((⟨M * 2 ^ j, false, false⟩ : ExtendedMantissa) >>> k) = _
    have hpow : M * 2 ^ (j - k) = M * 2 ^ (j - (k + 1)) * 2 := by
      rw [show j - k = j - (k + 1) + 1 by omega, pow_succ]
      ring
    rw [ih (by omega), hpow]
    simp [ExtendedMantissa.shiftRightOne]

/-- The exponent to which a magnitude is shifted. -/
theorem targetExponent_eq (m : Nat) (e : Int) :
    Format.binary64.targetExponent (totalExponent m e) = max (m.log2 + e - 52) (-1074) := by
  have hleast : Format.minExponent Format.binary64 = -1074 := by decide
  have hdigits : Format.mantissaBits Format.binary64 = 53 := by decide
  rw [Format.targetExponent, totalExponent, hleast, hdigits]
  omega

/-- The exponent rises until the mantissa has 53 bits, and at least to the least exponent. -/
theorem exponent_shiftToTargetExponent (m : Nat) (e : Int) (a : Accuracy) :
    (shiftToTargetExponent Format.binary64 m e a).2 = max e (max (m.log2 + e - 52) (-1074)) := by
  rw [shiftToTargetExponent, shiftToExponent, targetExponent_eq]
  omega

theorem mantissa_ofMantissaAndAccuracy (m : Nat) (a : Accuracy) :
    (ExtendedMantissa.ofMantissaAndAccuracy m a).mantissa = m := by
  cases a with
  | exact => rfl
  | inexact o => cases o <;> rfl

/-- Shifted to its exponent, the mantissa has at most 53 bits. -/
theorem mantissa_shiftToTargetExponent_lt (m : Nat) (e : Int) (a : Accuracy) :
    (shiftToTargetExponent Format.binary64 m e a).1.mantissa < 2 ^ 53 := by
  rw [shiftToTargetExponent, shiftToExponent, targetExponent_eq]
  dsimp only
  rw [mantissa_shiftRight, mantissa_ofMantissaAndAccuracy, Nat.div_lt_iff_lt_mul (by positivity),
    ← pow_add]
  calc m < 2 ^ (m.log2 + 1) := Nat.lt_log2_self
    _ ≤ _ := Nat.pow_le_pow_right (by decide) (by omega)

/-- A rounded magnitude fits where the exponent of the digits that are kept does. -/
theorem fits_of_exponent_le {s : Sign} {m : Nat} {e : Int} {a : Accuracy}
    (h : (shiftToTargetExponent Format.binary64
      (shiftToTargetExponent Format.binary64 m e a).1.roundedMantissa
      (shiftToTargetExponent Format.binary64 m e a).2 .exact).2 ≤ 971) :
    Fits (roundWithAccuracy Format.binary64 s m e a) := by
  unfold roundWithAccuracy
  dsimp only
  split
  · trivial
  · exact h

theorem log2_le_of_lt {m k : Nat} (h : m < 2 ^ (k + 1)) : m.log2 ≤ k := by
  by_cases hm : m = 0
  · rw [hm]
    exact Nat.zero_le k
  · exact Nat.lt_succ_iff.1 ((Nat.log2_lt hm).2 h)

/-- A magnitude below half the bound of all doubles fits however it is rounded. -/
theorem fits_roundWithAccuracy {s : Sign} {m : Nat} {e : Int} {a : Accuracy}
    (h : m.log2 + e ≤ 1022) (he : e ≤ 970) : Fits (roundWithAccuracy Format.binary64 s m e a) := by
  refine fits_of_exponent_le ?_
  have hfirst := exponent_shiftToTargetExponent m e a
  have hlt := mantissa_shiftToTargetExponent_lt m e a
  have hle := roundedMantissa_le (shiftToTargetExponent Format.binary64 m e a).1
  -- rounding up may carry into one more digit, but not into two
  have hlog : (shiftToTargetExponent Format.binary64 m e a).1.roundedMantissa.log2 ≤ 53 :=
    log2_le_of_lt (by omega)
  rw [exponent_shiftToTargetExponent]
  omega

theorem log2_mul_pow {m : Nat} (hm : 0 < m) (i : Nat) : (m * 2 ^ i).log2 = m.log2 + i := by
  rw [Nat.log2_eq_iff (by positivity)]
  have hle := Nat.log2_self_le hm.ne'
  have hlt := @Nat.lt_log2_self m
  constructor
  · rw [pow_add]
    exact Nat.mul_le_mul_right _ hle
  · rw [show m.log2 + i + 1 = m.log2 + 1 + i by omega, pow_add]
    exact Nat.mul_lt_mul_of_pos_right hlt (by positivity)

/-- A magnitude with as many digits as a double has fits where a double has its exponent. -/
theorem fits_roundWithAccuracy_exact {s : Sign} {M j : Nat} {e : Int} (hM : M < 2 ^ 53)
    (hpos : 0 < M) (hleast : -1074 ≤ e + j) (hmost : e + j ≤ 971) :
    Fits (roundWithAccuracy Format.binary64 s (M * 2 ^ j) e .exact) := by
  refine fits_of_exponent_le ?_
  have hlog : M.log2 ≤ 52 := log2_le_of_lt hM
  have hfirst := exponent_shiftToTargetExponent (M * 2 ^ j) e .exact
  -- only zeros are shifted out, so the digits that are kept are not rounded
  have hrounded : ∃ i ≤ j, (shiftToTargetExponent Format.binary64 (M * 2 ^ j) e
      .exact).1.roundedMantissa = M * 2 ^ (j - i) ∧
      (shiftToTargetExponent Format.binary64 (M * 2 ^ j) e .exact).2 = e + i := by
    rw [shiftToTargetExponent, shiftToExponent, targetExponent_eq, log2_mul_pow hpos]
    refine ⟨_, ?_, ?_, rfl⟩
    · omega
    · dsimp only
      rw [ExtendedMantissa.ofMantissaAndAccuracy, shiftRight_exact (by omega)]
      rfl
  obtain ⟨i, hi, hmantissa, hexponent⟩ := hrounded
  rw [exponent_shiftToTargetExponent, hmantissa, hexponent, log2_mul_pow hpos]
  omega

/-! ## Quotients -/

/-- The number of digits of a quotient. -/
theorem log2_div_le {m₁ m₂ : Nat} (h₁ : 0 < m₁) (h₂ : 0 < m₂) (k : Nat) :
    ((m₁ <<< k / m₂).log2 : Int) ≤ max 0 (m₁.log2 + k - m₂.log2) := by
  -- the logarithm of the quotient is less than one above the difference
  have hshift : m₁ <<< k < 2 ^ (m₁.log2 + k + 1) := by
    have hlt := @Nat.lt_log2_self (m₁ * 2 ^ k)
    rwa [log2_mul_pow h₁, ← Nat.shiftLeft_eq] at hlt
  by_cases hk : m₁.log2 + k < m₂.log2
  · have hzero : m₁ <<< k / m₂ = 0 := by
      refine Nat.div_eq_of_lt ?_
      calc m₁ <<< k < 2 ^ (m₁.log2 + k + 1) := hshift
        _ ≤ 2 ^ m₂.log2 := Nat.pow_le_pow_right (by decide) hk
        _ ≤ m₂ := Nat.log2_self_le h₂.ne'
    rw [hzero]
    simp
  · have hle : (m₁ <<< k / m₂).log2 ≤ m₁.log2 + k - m₂.log2 := by
      refine log2_le_of_lt ((Nat.div_lt_iff_lt_mul h₂).2 ?_)
      calc m₁ <<< k < 2 ^ (m₁.log2 + k + 1) := hshift
        _ = 2 ^ (m₁.log2 + k - m₂.log2 + 1) * 2 ^ m₂.log2 := by
          rw [← pow_add]
          congr 1
          omega
        _ ≤ 2 ^ (m₁.log2 + k - m₂.log2 + 1) * m₂ :=
          Nat.mul_le_mul_left _ (Nat.log2_self_le h₂.ne')
    omega

/-- A quotient that is below half the bound of all doubles fits. -/
theorem fits_div {s₁ s₂ : Sign} {m₁ m₂ : Nat} {e₁ e₂ : Int} (h₁ : 0 < m₁) (h₂ : 0 < m₂)
    (h : m₁.log2 + e₁ - (m₂.log2 + e₂) ≤ 1020) :
    Fits (UnpackedFloat.div Format.binary64 (.finite s₁ m₁ e₁ h₁) (.finite s₂ m₂ e₂ h₂)) := by
  have hleast : Format.minExponent Format.binary64 = -1074 := by decide
  have hdigits : Format.mantissaBits Format.binary64 = 53 := by decide
  show Fits (roundWithAccuracy _ _ _ _ _)
  have hlog := log2_div_le h₁ h₂ ((e₁ - e₂ - min (e₁ - e₂) (Format.binary64.targetExponent
    (totalExponent m₁ e₁ - totalExponent m₂ e₂))).toNat)
  unfold Format.targetExponent totalExponent at hlog ⊢
  rw [hleast, hdigits] at *
  refine fits_roundWithAccuracy ?_ ?_
  · omega
  · omega

/-- A product that has as many digits as a double fits where a double has its exponent. -/
theorem fits_mul_exact {s₁ s₂ : Sign} {m₁ m₂ M j : Nat} {e₁ e₂ : Int} (h₁ : 0 < m₁) (h₂ : 0 < m₂)
    (h : m₁ * m₂ = M * 2 ^ j) (hM : M < 2 ^ 53) (hleast : -1074 ≤ e₁ + e₂ + j)
    (hmost : e₁ + e₂ + j ≤ 971) :
    Fits (UnpackedFloat.mul Format.binary64 (.finite s₁ m₁ e₁ h₁) (.finite s₂ m₂ e₂ h₂)) := by
  have hpos : 0 < M := Nat.pos_of_mul_pos_right (h ▸ Nat.mul_pos h₁ h₂)
  show Fits (roundWithAccuracy _ _ (m₁ * m₂) _ _)
  rw [h]
  exact fits_roundWithAccuracy_exact hM hpos hleast hmost

/-- A quotient that is a whole number with as many digits as a double fits. -/
theorem fits_div_exact {m M j : Nat} {s₁ s₂ : Sign} (hm : 0 < m) (hM : 0 < M * 2 ^ j * m)
    (hlt : M < 2 ^ 53) (hj : j ≤ 971) :
    Fits (UnpackedFloat.div Format.binary64 (.finite s₁ (M * 2 ^ j * m) 0 hM)
      (.finite s₂ m 0 hm)) := by
  have hpos : 0 < M := Nat.pos_of_mul_pos_right (Nat.pos_of_mul_pos_right hM)
  show Fits (roundWithAccuracy _ _ _ _ _)
  have hshift : ∀ k, (M * 2 ^ j * m) <<< k = M * 2 ^ (j + k) * m := fun k => by
    rw [Nat.shiftLeft_eq, pow_add]
    ring
  rw [hshift, Nat.mul_div_cancel _ hm, Nat.mul_mod_left]
  refine fits_roundWithAccuracy_exact hlt hpos ?_ ?_
  · omega
  · omega

/-! ## Decimals -/

/-- The unpacked double is at least eight, or at most minus eight. -/
def isEightOrMore : UnpackedFloat → Bool
  | .finite _ m e _ => 3 ≤ m.log2 + e
  | _ => false

/-- The unpacked double is one, or minus one. -/
def isOne : UnpackedFloat → Bool
  | .finite _ m e _ => m == 2 ^ 52 && e == -52
  | _ => false

/-- The powers of ten in the table, beyond the first, are doubles of at least ten. -/
theorem isEightOrMore_powerOfTen : ∀ p, ∀ h : p < Float.exactlyRepresentablePowersOfTen.size,
    0 < p → isEightOrMore Float.exactlyRepresentablePowersOfTen[p].toModel.unpack = true := by
  decide +kernel

theorem isOne_powerOfTen : ∀ h : 0 < Float.exactlyRepresentablePowersOfTen.size,
    isOne Float.exactlyRepresentablePowersOfTen[0].toModel.unpack = true := by
  decide +kernel

/-- A finite double divided by eight or more stays finite. -/
theorem isFinite_div {x y : Float} (hx : isFinite x = true)
    (hy : isEightOrMore y.toModel.unpack = true) : isFinite (x / y) = true := by
  refine isFinite_pack (?_ : Fits (UnpackedFloat.div Format.binary64 x.toModel.unpack
    y.toModel.unpack))
  have hproper := proper_of_isFinite hx
  generalize x.toModel.unpack = u, y.toModel.unpack = v at hproper hy ⊢
  cases v with
  | finite s m e hm =>
    -- the divisor takes at least as many bits as the quotient gains
    have height : 3 ≤ (m.log2 : Int) + e := of_decide_eq_true hy
    cases hproper with
    | zero s' => trivial
    | finite s' h =>
      have hlog := log2_le_of_lt h.lt
      have hmost := h.most
      exact fits_div h.pos hm (by omega)
  | _ => cases hy

/-- A finite double multiplied by 1 stays finite. -/
theorem isFinite_mul_one {x y : Float} (hx : isFinite x = true)
    (hy : isOne y.toModel.unpack = true) : isFinite (x * y) = true := by
  refine isFinite_pack (?_ : Fits (UnpackedFloat.mul Format.binary64 x.toModel.unpack
    y.toModel.unpack))
  have hproper := proper_of_isFinite hx
  generalize x.toModel.unpack = u, y.toModel.unpack = v at hproper hy ⊢
  cases v with
  | finite s m e hm =>
    obtain ⟨hone, he⟩ := Bool.and_eq_true_iff.1 hy
    cases hproper with
    | zero s' => trivial
    | finite s' h =>
      have hleast := h.least
      have hmost := h.most
      have hexponent : e = -52 := eq_of_beq he
      exact fits_mul_exact h.pos hm (by rw [eq_of_beq hone]) h.lt (by omega) (by omega)
  | _ => cases hy

/-- A whole number of 64 bits is rounded to a finite double. -/
theorem fits_round {s : Sign} {m : Nat} (h : m < 2 ^ 64) :
    Fits (UnpackedFloat.round Format.binary64 s m 0) := by
  have hlog : m.log2 ≤ 63 := log2_le_of_lt h
  have hshift : ∀ k, ((m <<< k).log2 : Int) - k ≤ m.log2 := by
    intro k
    by_cases hm : m = 0
    · simp [hm]
    · rw [Nat.shiftLeft_eq, log2_mul_pow (Nat.pos_of_ne_zero hm)]
      omega
  show Fits (roundWithAccuracy _ _ (m <<< _) _ _)
  have hk := hshift (0 - Format.binary64.targetExponent (totalExponent m 0)).toNat
  exact fits_roundWithAccuracy (by omega) (by omega)

/-- The double for a whole number of 64 bits is finite. -/
theorem isFinite_toFloat (n : UInt64) : isFinite n.toFloat = true := by
  refine isFinite_pack (?_ : Fits (UnpackedFloat.normalize Format.binary64 n.toNat 0 .positive))
  have hn := n.toNat_lt
  unfold UnpackedFloat.normalize
  split
  · exact fits_round (by omega)
  · trivial
  · exact fits_round (by omega)

/-- Changing the sign of a double leaves it finite. -/
theorem isFinite_neg {x : Float} (h : isFinite x = true) : isFinite (-x) = true := by
  refine isFinite_pack (?_ : Fits (UnpackedFloat.neg x.toModel.unpack))
  have hproper := proper_of_isFinite h
  generalize x.toModel.unpack = u at hproper ⊢
  cases hproper with
  | zero s => trivial
  | finite s h => exact h.most

/-- The sign does not make a number infinite. -/
theorem isFinite_signed {x : Float} (negative : Bool) (h : isFinite x = true) :
    isFinite (signed negative x) = true := by
  cases negative with
  | false => exact h
  | true => exact isFinite_neg h

/-! ## Results that are numbers -/

/-- A finite double is a number. -/
theorem isNaN_of_isFinite {x : Float} (h : isFinite x = true) : x.isNaN = false := by
  show x.toModel.unpack.isNaN = false
  have hproper := proper_of_isFinite h
  generalize x.toModel.unpack = u at hproper ⊢
  cases hproper with
  | zero s => rfl
  | finite s h => rfl

/-- What is too large for a double is packed like an infinity. -/
theorem pack_eq_pack_infinity (s : Sign) {m : Nat} {e : Int} (hm : 0 < m) (he : 971 < e) :
    Float.Model.pack (.finite s m e hm) = Float.Model.pack (.infinity s) := by
  have hbias : Format.exponentBias Format.binary64 = 1023 := by decide
  have hlarge : 2 ^ 11 ≤
      (e + (Format.exponentBias Format.binary64 : Int) + (52 : Nat)).toNat + 1 := by
    rw [hbias]
    omega
  unfold Float.Model.pack
  congr 2
  exact if_pos hlarge

/-- Whatever is a number is packed into a number, or into an infinity. -/
theorem isNaN_pack {u : UnpackedFloat} (h : u ≠ .notANumber) :
    (Float.ofModel (Float.Model.pack u)).isNaN = false := by
  have hinfinity : ∀ s, (Float.ofModel (Float.Model.pack (.infinity s))).isNaN = false := by
    intro s
    cases s <;> decide +kernel
  cases u with
  | notANumber => exact absurd rfl h
  | infinity s => exact hinfinity s
  | zero s => exact isNaN_of_isFinite (isFinite_pack trivial)
  | finite s m e hm =>
    by_cases he : e ≤ 971
    · exact isNaN_of_isFinite (isFinite_pack he)
    · rw [pack_eq_pack_infinity s hm (by omega)]
      exact hinfinity s

/-- Rounding a number gives a number. -/
theorem roundWithAccuracy_ne_notANumber (s : Sign) (m : Nat) (e : Int) (a : Accuracy) :
    roundWithAccuracy Format.binary64 s m e a ≠ .notANumber := by
  unfold roundWithAccuracy
  dsimp only
  split
  · exact UnpackedFloat.noConfusion
  · exact UnpackedFloat.noConfusion

/-- The product of finite doubles is a number or infinite. -/
theorem isNaN_mul {x y : Float} (hx : isFinite x = true) (hy : isFinite y = true) :
    (x * y).isNaN = false := by
  refine isNaN_pack (?_ : UnpackedFloat.mul Format.binary64 x.toModel.unpack y.toModel.unpack ≠ _)
  have hproper := proper_of_isFinite hx
  have hproper' := proper_of_isFinite hy
  generalize x.toModel.unpack = u, y.toModel.unpack = v at hproper hproper' ⊢
  cases hproper with
  | zero s =>
    cases hproper' with
    | zero s' => exact UnpackedFloat.noConfusion
    | finite s' h' => exact UnpackedFloat.noConfusion
  | finite s h =>
    cases hproper' with
    | zero s' => exact UnpackedFloat.noConfusion
    | finite s' h' => exact roundWithAccuracy_ne_notANumber _ _ _ _

/-- A quotient by a finite double other than zero is a number or infinite. -/
theorem isNaN_div {x y : Float} (hx : x.isNaN = false) (hy : isFinite y = true)
    (hne : rational y ≠ 0) : (x / y).isNaN = false := by
  refine isNaN_pack (?_ : UnpackedFloat.div Format.binary64 x.toModel.unpack y.toModel.unpack ≠ _)
  have hnumber : x.toModel.unpack.isNaN = false := hx
  have hproper := proper_of_isFinite hy
  rw [rational_eq_exactly] at hne
  generalize x.toModel.unpack = u, y.toModel.unpack = v at hnumber hproper hne ⊢
  cases hproper with
  | zero s => exact absurd rfl hne
  | finite s h =>
    cases u with
    | notANumber => cases hnumber
    | infinity s' => exact UnpackedFloat.noConfusion
    | zero s' => exact UnpackedFloat.noConfusion
    | finite s' m e hm => exact roundWithAccuracy_ne_notANumber _ _ _ _

/-- A number that is not finite is above all finite doubles, or below them. -/
theorem lt_or_lt_of_not_isFinite {x y : Float} (hx : isFinite x = true) (hy : isFinite y = false)
    (hnumber : y.isNaN = false) : (x < y ∧ ¬ y < x) ∨ (y < x ∧ ¬ x < y) := by
  have hnumber' : y.toModel.unpack.isNaN = false := hnumber
  have hproper := proper_of_isFinite hx
  unfold isFinite at hy
  rw [anatomy_eq] at hy
  -- what is not finite and a number is an infinity, which compares with all finite doubles alike
  rw [lt_iff_compare, lt_iff_compare]
  generalize x.toModel.unpack = u, y.toModel.unpack = v at hproper hy hnumber' ⊢
  cases v with
  | notANumber => cases hnumber'
  | zero s => cases hy
  | finite s m e hm => cases hy
  | infinity s =>
    cases s with
    | positive =>
      have hlt : u.compare (.infinity .positive) = some .lt := by cases hproper <;> rfl
      have hgt : UnpackedFloat.compare (.infinity .positive) u = some .gt := by
        cases hproper <;> rfl
      rw [hlt, hgt]
      decide
    | negative =>
      have hgt : u.compare (.infinity .negative) = some .gt := by cases hproper <;> rfl
      have hlt : UnpackedFloat.compare (.infinity .negative) u = some .lt := by
        cases hproper <;> rfl
      rw [hgt, hlt]
      decide

end Metrology.Numeral
