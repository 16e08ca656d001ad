import Metrology.Proofs.Numeral.Range

/-!
# Products and quotients are nearest doubles

The product and the quotient of two finite doubles are doubles that are nearest to the product and
the quotient of the numbers, or infinite where these are beyond the largest double by half a unit or
more (`rounds_mul`, `rounds_div`). The mantissa and the residual bits of the arithmetic always tell
between which halves of a unit the exact result lies, from which everything else follows.
-/

namespace Metrology.Numeral

open Float.Model Float.Model.UnpackedFloat

/-! ## Residual bits -/

/-- The number lies where the mantissa and the residual bits say. -/
def Lies : ExtendedMantissa → ℚ → Prop
  | ⟨m, false, false⟩, v => v = m
  | ⟨m, false, true⟩, v => m < v ∧ v < m + 1 / 2
  | ⟨m, true, false⟩, v => v = m + 1 / 2
  | ⟨m, true, true⟩, v => m + 1 / 2 < v ∧ v < m + 1

variable {em : ExtendedMantissa} {v : ℚ}

/-- Halving keeps the bits below the mantissa in order: the rounding bit is the one that leaves it,
and the sticky bit remembers those that left before. -/
theorem Lies.shiftRightOne (h : Lies em v) : Lies em.shiftRightOne (v / 2) := by
  obtain ⟨m, r, s⟩ := em
  have hparity : (m : ℚ) = 2 * (m / 2 : ℕ) + (m % 2 : ℕ) := by
    exact_mod_cast (Nat.div_add_mod m 2).symm
  show Lies ⟨m / 2, m % 2 != 0, r || s⟩ (v / 2)
  have hodd : ((1 : ℕ) != 0) = true := rfl
  -- the last digit becomes the round bit, the old round bit becomes sticky
  rcases Nat.mod_two_eq_zero_or_one m with hm | hm
  all_goals
    rw [hm] at hparity ⊢
    push_cast at hparity
    cases r <;> cases s <;>
      simp only [Lies, bne_self_eq_false, hodd, Bool.or_false, Bool.or_true] at h ⊢
  all_goals first
    | linarith
    | constructor <;> linarith

/-- A mantissa that is shifted still brackets the value, which is divided by the same power of two.
-/
theorem Lies.shiftRight (h : Lies em v) (k : ℕ) : Lies (em >>> k) (v / 2 ^ k) := by
  induction k with
  | zero =>
    rw [pow_zero, div_one]
    exact h
  | succ k ih =>
    rw [pow_succ, ← div_div]
    exact ih.shiftRightOne

/-- The mantissa does not exceed the value. -/
theorem Lies.mantissa_le (h : Lies em v) : (em.mantissa : ℚ) ≤ v := by
  obtain ⟨m, r, s⟩ := em
  cases r <;> cases s <;> simp only [Lies] at h ⊢ <;> linarith

/-- The mantissa is less than one below the value. -/
theorem Lies.lt_mantissa_add_one (h : Lies em v) : v < em.mantissa + 1 := by
  obtain ⟨m, r, s⟩ := em
  cases r <;> cases s <;> simp only [Lies] at h ⊢ <;> linarith

/-- Rounding moves by half a unit at most. -/
theorem Lies.near (h : Lies em v) : |(em.roundedMantissa : ℚ) - v| ≤ 1 / 2 := by
  obtain ⟨m, r, s⟩ := em
  rw [abs_le]
  have hparity : ((m % 2 : ℕ) : ℚ) = 0 ∨ ((m % 2 : ℕ) : ℚ) = 1 := by
    rcases Nat.mod_two_eq_zero_or_one m with hm | hm <;> simp [hm]
  cases r <;> cases s <;>
    simp only [Lies, ExtendedMantissa.roundedMantissa, ExtendedMantissa.accuracy,
      Accuracy.roundToNearestEven] at h ⊢ <;>
    push_cast
  · constructor <;> linarith
  · constructor <;> linarith
  · rcases hparity with hm | hm <;> constructor <;> linarith
  · constructor <;> linarith

/-- Between two units, rounding goes to the even one. -/
theorem Lies.even (h : Lies em v) (hv : |(em.roundedMantissa : ℚ) - v| = 1 / 2) :
    em.roundedMantissa % 2 = 0 := by
  obtain ⟨m, r, s⟩ := em
  cases r <;> cases s <;>
    simp only [Lies, ExtendedMantissa.roundedMantissa, ExtendedMantissa.accuracy,
      Accuracy.roundToNearestEven] at h hv ⊢
  · rw [h, sub_self, abs_zero] at hv
    norm_num at hv
  · rw [abs_of_neg (by linarith)] at hv
    linarith
  · omega
  · push_cast at hv
    rw [abs_of_pos (by linarith)] at hv
    linarith

theorem lies_exact (m : ℕ) : Lies (ExtendedMantissa.ofMantissaAndAccuracy m .exact) m := rfl

/-- The digits of a quotient and what the remainder says about it. -/
theorem lies_fraction (n : ℕ) {d : ℕ} (hd : 0 < d) :
    Lies (ExtendedMantissa.ofMantissaAndAccuracy (n / d) (accuracyOfFraction (n % d) d))
      ((n : ℚ) / d) := by
  have hd' : (0 : ℚ) < d := by exact_mod_cast hd
  have hquotient : (n : ℚ) / d = (n / d : ℕ) + (n % d : ℕ) / d := by
    rw [div_eq_iff hd'.ne', add_mul, div_mul_cancel₀ _ hd'.ne']
    exact_mod_cast (Nat.div_add_mod' n d).symm
  have hmod : ((n % d : ℕ) : ℚ) < d := by exact_mod_cast Nat.mod_lt n hd
  rw [hquotient]
  -- the remainder decides between below, at and above the middle
  generalize n / d = m, n % d = r at hmod ⊢
  unfold accuracyOfFraction
  split
  · rename_i hr
    simp [hr, ExtendedMantissa.ofMantissaAndAccuracy, Lies]
  · rename_i hr
    have hpos : (0 : ℚ) < r := by exact_mod_cast Nat.pos_of_ne_zero hr
    cases hcompare : compare (2 * r) d with
    | lt =>
      have hlt : (2 * r : ℚ) < d := by exact_mod_cast Nat.compare_eq_lt.1 hcompare
      have hhalf : (r : ℚ) / d < 1 / 2 := by
        rw [div_lt_div_iff₀ hd' two_pos]
        linarith
      exact ⟨by have := div_pos hpos hd'; linarith, by linarith⟩
    | eq =>
      have heq : (2 * r : ℚ) = d := by exact_mod_cast Nat.compare_eq_eq.1 hcompare
      have hhalf : (r : ℚ) / d = 1 / 2 := by
        rw [div_eq_div_iff hd'.ne' two_ne_zero]
        linarith
      exact congrArg ((m : ℚ) + ·) hhalf
    | gt =>
      have hgt : (d : ℚ) < 2 * r := by exact_mod_cast Nat.compare_eq_gt.1 hcompare
      have hhalf : 1 / 2 < (r : ℚ) / d := by
        rw [div_lt_div_iff₀ two_pos hd']
        linarith
      have hone : (r : ℚ) / d < 1 := (div_lt_one hd').2 hmod
      exact ⟨by linarith, by linarith⟩

/-! ## The digits that are kept -/

/-- The magnitude is rounded to a number of units, of which a power of two is chosen so that as many
digits are kept as a double has. -/
structure Kept (magnitude : ℚ) (n : ℕ) (t : ℤ) : Prop where
  least : -1074 ≤ t
  near : |(n : ℚ) * 2 ^ t - magnitude| ≤ 2 ^ t / 2
  even : |(n : ℚ) * 2 ^ t - magnitude| = 2 ^ t / 2 → n % 2 = 0
  lt : magnitude < 2 ^ 53 * 2 ^ t
  normal : t = -1074 ∨ 2 ^ 52 * 2 ^ t ≤ magnitude

/-- The rounded mantissa of a value in range is the nearest one. -/
theorem Lies.kept (h : Lies em v) (hlt : em.mantissa < 2 ^ 53) {t : ℤ} (hleast : -1074 ≤ t)
    (hnormal : t = -1074 ∨ 2 ^ 52 ≤ v) : Kept (v * 2 ^ t) em.roundedMantissa t := by
  have hunit : (0 : ℚ) < 2 ^ t := by positivity
  have hdistance : |(em.roundedMantissa : ℚ) * 2 ^ t - v * 2 ^ t| =
      |(em.roundedMantissa : ℚ) - v| * 2 ^ t := by
    rw [← sub_mul, abs_mul, abs_of_pos hunit]
  refine ⟨hleast, ?_, fun heven => h.even ?_, ?_, hnormal.imp_right fun hle => ?_⟩
  · rw [hdistance, div_eq_inv_mul, ← one_div]
    exact mul_le_mul_of_nonneg_right h.near hunit.le
  · rw [hdistance, div_eq_inv_mul, ← one_div] at heven
    exact mul_right_cancel₀ hunit.ne' heven
  · refine mul_lt_mul_of_pos_right (h.lt_mantissa_add_one.trans_le ?_) hunit
    exact_mod_cast hlt
  · exact mul_le_mul_of_nonneg_right hle hunit.le

/-- The double for a number of units, with one more digit than a double has if need be. -/
def settle (s : Sign) (n : ℕ) (t : ℤ) : UnpackedFloat :=
  if n = 2 ^ 53 then .finite s (2 ^ 52) (t + 1) (by decide)
  else if h : n = 0 then .zero s
  else .finite s n t (Nat.pos_of_ne_zero h)

/-- A mantissa that fits is shifted no further. -/
theorem shiftToTargetExponent_of_lt {n : ℕ} {t : ℤ} (hn : n < 2 ^ 53) (ht : -1074 ≤ t) :
    shiftToTargetExponent Format.binary64 n t .exact = (⟨n, false, false⟩, t) := by
  have hlog : n.log2 ≤ 52 := log2_le_of_lt hn
  have hnone : (Format.binary64.targetExponent (totalExponent n t) - t).toNat = 0 := by
    rw [targetExponent_eq]
    omega
  rw [shiftToTargetExponent, shiftToExponent, hnone]
  exact Prod.ext rfl (Int.add_zero t)

/-- Where rounding carries into a further bit, one more shift takes it back, without loss. -/
theorem shiftToTargetExponent_carry {t : ℤ} (ht : -1074 ≤ t) :
    shiftToTargetExponent Format.binary64 (2 ^ 53) t .exact = (⟨2 ^ 52, false, false⟩, t + 1) := by
  have hone : (Format.binary64.targetExponent (totalExponent (2 ^ 53) t) - t).toNat = 1 := by
    rw [targetExponent_eq, Nat.log2_two_pow]
    omega
  rw [shiftToTargetExponent, shiftToExponent, hone]
  rfl

/-- A magnitude whose digits reach down to those of a double is rounded to them. -/
theorem exists_kept {m : ℕ} {e : ℤ} {a : Accuracy} (s : Sign)
    (hv : Lies (ExtendedMantissa.ofMantissaAndAccuracy m a) v) (hdeep : e ≤ -1074 ∨ 2 ^ 52 ≤ m) :
    ∃ n t, Kept (v * 2 ^ e) n t ∧
      roundWithAccuracy Format.binary64 s m e a = settle s n t := by
  obtain ⟨k, hk⟩ : ∃ k, k = (Format.binary64.targetExponent (totalExponent m e) - e).toNat :=
    ⟨_, rfl⟩
  have hshift : shiftToTargetExponent Format.binary64 m e a =
      (ExtendedMantissa.ofMantissaAndAccuracy m a >>> k, e + k) := by
    rw [shiftToTargetExponent, shiftToExponent, ← hk]
  rw [targetExponent_eq] at hk
  have hlies := hv.shiftRight k
  have hmantissa := mantissa_shiftToTargetExponent_lt m e a
  rw [hshift] at hmantissa
  generalize ExtendedMantissa.ofMantissaAndAccuracy m a >>> k = em at hshift hlies hmantissa
  have hrounded := roundedMantissa_le em
  have hleast : -1074 ≤ e + k := by omega
  refine ⟨em.roundedMantissa, e + k, ?_, ?_⟩
  · have hscale : v * 2 ^ e = v / 2 ^ k * 2 ^ (e + k : ℤ) := by
      rw [zpow_add₀ two_ne_zero, zpow_natCast, mul_comm (2 ^ e), ← mul_assoc,
        div_mul_cancel₀ _ (by positivity)]
    rw [hscale]
    refine hlies.kept hmantissa hleast ?_
    -- unless the least unit is reached, the digits begin with the first one that is not zero
    by_cases hleast' : e + k = -1074
    · exact .inl hleast'
    · right
      have hlog : 52 ≤ m.log2 := by
        rcases hdeep with he | hm
        · omega
        · exact (Nat.le_log2 (by omega)).2 hm
      have hdigits : m.log2 = 52 + k := by omega
      have hm : (2 : ℚ) ^ (52 + k) ≤ m := by
        rw [← hdigits]
        exact_mod_cast Nat.log2_self_le (by rintro rfl; simp at hlog)
      have hv' : (m : ℚ) ≤ v := by
        have hle := hv.mantissa_le
        rwa [mantissa_ofMantissaAndAccuracy] at hle
      rw [le_div_iff₀ (by positivity), ← pow_add]
      exact hm.trans hv'
  · unfold roundWithAccuracy settle
    rw [hshift]
    dsimp only
    by_cases hcarry : em.roundedMantissa = 2 ^ 53
    · rw [hcarry, shiftToTargetExponent_carry hleast]
      rfl
    · have hlt : em.roundedMantissa < 2 ^ 53 := by
        dsimp only at hmantissa
        omega
      rw [shiftToTargetExponent_of_lt hlt hleast, if_neg hcarry]

/-! ## Packing -/

/-- A packed sign is unpacked as it was. -/
theorem ofBitVec_unpackSign (s : Sign) (exponent : BitVec 11) (fraction : BitVec 52) :
    Sign.ofBitVec (@unpackSign Format.binary64
      (packComponents Format.binary64 s exponent fraction)) = s := by
  have hsign : @unpackSign Format.binary64 (packComponents Format.binary64 s exponent fraction) =
      s.toBitVec := by
    change (s.toBitVec ++ exponent ++ fraction).extractLsb' 63 1 = s.toBitVec
    rw [BitVec.extractLsb'_append_eq_of_le (by decide),
      BitVec.extractLsb'_append_eq_of_le (by decide)]
    cases s <;> rfl
  rw [hsign]
  cases s <;> rfl

/-- A canonical number is packed into its fields. -/
theorem pack_eq_of_canonical (s : Sign) {m : Nat} {e : Int} (h : Canonical m e) :
    UnpackedFloat.pack Format.binary64 (.finite s m e h.pos) =
      packComponents Format.binary64 s
        (BitVec.ofNat 11 (if 2 ^ 52 ≤ m then (e + 1075).toNat else 0)) (BitVec.ofNat 52 m) := by
  have hleast := h.least
  have hmost := h.most
  have hbias : (e + (Format.exponentBias Format.binary64 : Int) + (52 : Nat)).toNat =
      (e + 1075).toNat := by
    have hbias : Format.exponentBias Format.binary64 = 1023 := by decide
    rw [hbias]
    omega
  -- the exponent field is not full, so this is no infinity
  have hsmall : ¬ 2 ^ 11 ≤ (e + 1075).toNat + 1 := by omega
  unfold UnpackedFloat.pack
  dsimp only
  rw [hbias, if_neg hsmall]
  by_cases hnormal : 2 ^ 52 ≤ m
  · have hlog : m.log2 = 52 := (Nat.log2_eq_iff h.pos.ne').2 ⟨hnormal, h.lt⟩
    rw [if_pos (by rw [hlog]; rfl), if_pos hnormal]
  · have hlog : m.log2 < 52 := (Nat.log2_lt h.pos.ne').2 (by omega)
    rw [if_neg (by show ¬ m.log2 + 1 = 53; omega), if_neg hnormal]

/-- What is packed from a canonical magnitude is unpacked to it. -/
theorem unpack_pack (s : Sign) {m : Nat} {e : Int} (h : Canonical m e) :
    (Float.Model.pack (.finite s m e h.pos)).unpack = .finite s m e h.pos := by
  show UnpackedFloat.unpack Format.binary64 (UnpackedFloat.pack Format.binary64 _) = _
  have hreads := reads_unpack (UnpackedFloat.pack Format.binary64 (.finite s m e h.pos))
  rw [← toNat_unpackExponent, ← toNat_unpackMantissa] at hreads
  rw [pack_eq_of_canonical s h] at hreads ⊢
  have hlt := h.lt
  have hpos := h.pos
  have hleast := h.least
  have hmost := h.most
  have hnormal := h.normal
  have hexponent : (BitVec.ofNat (Format.exponentBits Format.binary64)
      (if 2 ^ 52 ≤ m then (e + 1075).toNat else 0)).toNat =
        if 2 ^ 52 ≤ m then (e + 1075).toNat else 0 := by
    refine (BitVec.toNat_ofNat _ _).trans (Nat.mod_eq_of_lt ?_)
    show _ < 2 ^ 11
    split <;> omega
  have hfraction : (BitVec.ofNat (Format.mantissaBitsWithoutImplicit Format.binary64) m).toNat =
      m % 2 ^ 52 := BitVec.toNat_ofNat _ _
  rw [unpackExponent_packComponents, unpackMantissa_packComponents, ofBitVec_unpackSign,
    hexponent, hfraction] at hreads
  generalize UnpackedFloat.unpack Format.binary64 _ = u at hreads ⊢
  -- a full mantissa is packed without its first bit, and read with it
  by_cases hm : 2 ^ 52 ≤ m
  · rw [if_pos hm] at hreads
    cases hreads with
    | normal he he' hm' hmeq heq =>
      congr 1
      · omega
      · omega
    | _ => omega
  · rw [if_neg hm] at hreads
    cases hreads with
    | subnormal he hf heq =>
      congr 1
      · omega
      · omega
    | _ => omega

/-- Packing and unpacking gives back every number that a double can hold. -/
theorem unpack_pack_of_proper {u : UnpackedFloat} (h : Proper u) :
    (Float.Model.pack u).unpack = u := by
  cases h with
  | zero s => cases s <;> rfl
  | finite s h => exact unpack_pack s h

/-- A number in the form of a double is packed into a double that is this number. -/
theorem rational_pack {u : UnpackedFloat} (h : Proper u) :
    rational (Float.ofModel (Float.Model.pack u)) = exactly u := by
  rw [rational_eq_exactly]
  exact congrArg exactly (unpack_pack_of_proper h)

/-- What a double can hold is not rounded up to infinity. -/
theorem Proper.fits {u : UnpackedFloat} (h : Proper u) : Fits u := by
  cases h with
  | zero s => trivial
  | finite s h => exact h.most

/-- What is too large is packed into an infinity. -/
theorem pack_of_lt (s : Sign) {m : Nat} {e : Int} (hm : 0 < m) (he : 971 < e) :
    Float.ofModel (Float.Model.pack (.finite s m e hm)) = signed (s == .negative) infinity := by
  rw [pack_eq_pack_infinity s hm he]
  cases s <;> decide +kernel

/-! ## Signs -/

/-- The number with a magnitude and a sign. -/
def onSide : Sign → ℚ → ℚ
  | .positive, q => q
  | .negative, q => -q

/-- A finite number is its magnitude on its side. -/
theorem exactly_finite (s : Sign) {m : Nat} {e : Int} (hm : 0 < m) :
    exactly (.finite s m e hm) = onSide s (m * 2 ^ e) := by
  cases s with
  | positive => exact exactly_positive hm
  | negative => exact exactly_negative hm

/-- The sides of a product multiply. -/
theorem onSide_mul (s s' : Sign) (a b : ℚ) :
    onSide (s * s') (a * b) = onSide s a * onSide s' b := by
  cases s <;> cases s'
  · exact (neg_mul_neg a b).symm
  · exact (neg_mul a b).symm
  · exact (mul_neg a b).symm
  · rfl

/-- The sides of a quotient multiply. -/
theorem onSide_div (s s' : Sign) (a b : ℚ) :
    onSide (s / s') (a / b) = onSide s a / onSide s' b := by
  cases s <;> cases s'
  · exact (neg_div_neg_eq a b).symm
  · exact (neg_div b a).symm
  · exact (div_neg a).symm
  · rfl

theorem onSide_sub (s : Sign) (a b : ℚ) : onSide s a - onSide s b = onSide s (a - b) := by
  cases s with
  | positive => rfl
  | negative => exact (neg_sub_neg a b).trans (neg_sub a b).symm

@[simp] theorem abs_onSide (s : Sign) (a : ℚ) : |onSide s a| = |a| := by
  cases s with
  | positive => rfl
  | negative => exact abs_neg a

theorem decide_onSide_lt_zero (s : Sign) {q : ℚ} (hq : 0 < q) :
    decide (onSide s q < 0) = (s == .negative) := by
  cases s with
  | positive => exact decide_eq_false hq.not_gt
  | negative => exact decide_eq_true (neg_neg_iff_pos.2 hq)

/-! ## Nearest doubles -/

/-- The least number that is rounded to an infinity: the largest double and half a unit. -/
def beyond : ℚ := (2 ^ 53 - 1 / 2) * 2 ^ (971 : ℤ)

/-- The bound of the finite doubles is positive. -/
theorem beyond_pos : 0 < beyond :=
  mul_pos (by norm_num) (by positivity)

/-- The least number of which no digit is lost. -/
def leastNormal : ℚ := 2 ^ 52 * 2 ^ (-1074 : ℤ)

/-- The last digit of the number is zero, if it is that of a double. -/
def IsEven (q : ℚ) : Prop :=
  ∀ m e, Canonical m e → |q| = m * 2 ^ e → m % 2 = 0

/-- The double is one that is nearest to the number, or infinite if no double is near it. -/
structure Rounds (v : ℚ) (y : Float) : Prop where
  finite : |v| < beyond → isFinite y = true
  nearest : |v| < beyond → ∀ z, isFinite z = true → |rational y - v| ≤ |rational z - v|
  /-- Of two doubles that are equally near, it is the even one. -/
  even : |v| < beyond → ∀ z, isFinite z = true → rational z ≠ rational y →
    |rational y - v| = |rational z - v| → IsEven (rational y)
  /-- Where all digits are kept, the last one is off by half a unit at most. -/
  close : |v| < beyond → leastNormal ≤ |v| → |rational y - v| ≤ |v| / 2 ^ 53
  infinite : beyond ≤ |v| → y = signed (v < 0) infinity

/-- The number is that of a finite double. -/
def Representable (q : ℚ) : Prop :=
  q = 0 ∨ ∃ m e, Canonical m e ∧ |q| = m * 2 ^ e

/-- A finite double stands for a representable number. -/
theorem representable_rational {x : Float} (h : isFinite x = true) :
    Representable (rational x) := by
  have hproper := proper_of_isFinite h
  rw [rational_eq_exactly]
  generalize x.toModel.unpack = u at hproper ⊢
  cases hproper with
  | zero s => exact .inl rfl
  | finite s h =>
    refine .inr ⟨_, _, h, ?_⟩
    rw [exactly_finite, abs_onSide, abs_of_nonneg (by positivity)]

theorem Representable.onSide {q : ℚ} (h : Representable q) (s : Sign) :
    Representable (onSide s q) := by
  obtain rfl | ⟨m, e, hc, hq⟩ := h
  · left
    cases s <;> simp [Numeral.onSide]
  · exact .inr ⟨m, e, hc, by rwa [abs_onSide]⟩

/-- Numbers of doubles are whole numbers of units, or so small that they have smaller units. -/
theorem Representable.multiple_or_lt {q : ℚ} (h : Representable q) (t : ℤ) :
    (∃ k : ℤ, q = k * 2 ^ t) ∨ (t ≠ -1074 ∧ |q| < 2 ^ 52 * 2 ^ t) := by
  obtain rfl | ⟨m, e, hc, hq⟩ := h
  · exact .inl ⟨0, by simp⟩
  · rcases le_or_gt t e with hte | hte
    · left
      -- with a larger exponent it is a multiple of the unit
      have hunits : |q| = ((m * 2 ^ (e - t).toNat : ℕ) : ℤ) * 2 ^ t := by
        rw [hq]
        push_cast
        rw [mul_assoc, ← zpow_natCast, ← zpow_add₀ two_ne_zero]
        congr 2
        omega
      rcases abs_choice q with habs | habs
      · exact ⟨_, habs ▸ hunits⟩
      · refine ⟨-((m * 2 ^ (e - t).toNat : ℕ) : ℤ), ?_⟩
        rw [Int.cast_neg, neg_mul, ← hunits, habs, neg_neg]
    · right
      -- with a smaller one it is too small for the mantissa to be full
      have hleast := hc.least
      refine ⟨by omega, ?_⟩
      have hunit : (2 : ℚ) ^ e ≤ 2 ^ (t - 1) := zpow_le_zpow_right₀ (by norm_num) (by omega)
      have hm : (m : ℚ) < 2 ^ 53 := by exact_mod_cast hc.lt
      rw [hq]
      calc (m : ℚ) * 2 ^ e < 2 ^ 53 * 2 ^ e := mul_lt_mul_of_pos_right hm (by positivity)
        _ ≤ 2 ^ 53 * 2 ^ (t - 1) := mul_le_mul_of_nonneg_left hunit (by positivity)
        _ = 2 ^ 52 * 2 ^ t := by
          rw [zpow_sub_one₀ two_ne_zero]
          ring

/-- One point is as near as another where the value does not lie beyond the middle between them. -/
theorem nearer_iff (a b v : ℚ) : |a - v| ≤ |b - v| ↔ (a - b) * (a + b - 2 * v) ≤ 0 := by
  have hsquares : (a - v) ^ 2 - (b - v) ^ 2 = (a - b) * (a + b - 2 * v) := by ring
  rw [← sq_le_sq, ← sub_nonpos, hsquares]

/-- Different whole numbers of units are a unit apart. -/
theorem unit_le_abs_sub {j k t : ℤ} (h : (j : ℚ) * 2 ^ t ≠ k * 2 ^ t) :
    (2 : ℚ) ^ t ≤ |(k : ℚ) * 2 ^ t - j * 2 ^ t| := by
  have hne : k - j ≠ 0 := fun heq => h (by rw [sub_eq_zero.1 heq])
  have hone : (1 : ℚ) ≤ |(k : ℚ) - j| := by exact_mod_cast Int.one_le_abs hne
  have hunit : (0 : ℚ) < 2 ^ t := by positivity
  rw [← sub_mul, abs_mul, abs_of_pos hunit]
  exact le_mul_of_one_le_left hunit.le hone

/-- No whole number of units is nearer than one that is half a unit away at most. -/
theorem abs_sub_le_of_near {n k : ℤ} {w : ℚ} (h : |(n : ℚ) - w| ≤ 1 / 2) :
    |(n : ℚ) - w| ≤ |(k : ℚ) - w| := by
  by_cases hk : k = n
  · rw [hk]
  · have hone : (1 : ℚ) ≤ |(k : ℚ) - n| := by exact_mod_cast Int.one_le_abs (sub_ne_zero.2 hk)
    have htriangle : |(k : ℚ) - n| ≤ |(k : ℚ) - w| + |(n : ℚ) - w| := by
      rw [abs_sub_comm (n : ℚ) w]
      exact abs_sub_le _ _ _
    linarith

namespace Kept

variable {V : ℚ} {n : ℕ} {t : ℤ}

/-- Distances are measured in units of the last place. -/
theorem distance (n : ℚ) (V : ℚ) (t : ℤ) : |n * 2 ^ t - V| = |n - V / 2 ^ t| * 2 ^ t := by
  have hunit : (0 : ℚ) < 2 ^ t := by positivity
  rw [← abs_of_pos hunit, ← abs_mul, abs_of_pos hunit, sub_mul, div_mul_cancel₀ _ hunit.ne']

/-- A rounded mantissa is at most half a unit off. -/
theorem near_units (h : Kept V n t) : |(n : ℚ) - V / 2 ^ t| ≤ 1 / 2 := by
  have hunit : (0 : ℚ) < 2 ^ t := by positivity
  have hnear := h.near
  rw [distance] at hnear
  exact le_of_mul_le_mul_right (by linarith) hunit

/-- Before rounding, a value in range has at most 53 bits in units of the last place. -/
theorem lt_units (h : Kept V n t) : V / 2 ^ t < 2 ^ 53 :=
  (div_lt_iff₀ (by positivity)).2 h.lt

/-- After rounding, too, it has at most 53 bits, or is the next power of two. -/
theorem le (h : Kept V n t) : n ≤ 2 ^ 53 := by
  have hnear := (abs_le.1 h.near_units).2
  have hlt := h.lt_units
  have hle : (n : ℚ) < (2 ^ 53 + 1 : ℕ) := by
    push_cast
    linarith
  exact Nat.lt_succ_iff.1 (by exact_mod_cast hle)

/-- Rounding keeps a normal mantissa normal. -/
theorem normal_units (h : Kept V n t) : t = -1074 ∨ 2 ^ 52 ≤ n := by
  refine h.normal.imp_right fun hle => ?_
  have hnear := (abs_le.1 h.near_units).1
  have hunits : 2 ^ 52 ≤ V / 2 ^ t := (le_div_iff₀ (by positivity)).2 hle
  have hlt : ((2 ^ 52 - 1 : ℕ) : ℚ) < n := by
    push_cast
    linarith
  have := Nat.cast_lt.1 hlt
  omega

/-- No multiple of the unit is nearer. -/
theorem nearest_multiple (h : Kept V n t) (k : ℤ) :
    |(n : ℚ) * 2 ^ t - V| ≤ |(k : ℚ) * 2 ^ t - V| := by
  rw [distance, distance]
  exact mul_le_mul_of_nonneg_right (abs_sub_le_of_near (n := n) h.near_units) (by positivity)

/-- Numbers with smaller units are below the first number of all these digits, which is nearer. -/
theorem lt_of_small (h : Kept V n t) (ht : t ≠ -1074) {q : ℚ} (hq : |q| < 2 ^ 52 * 2 ^ t) :
    |(n : ℚ) * 2 ^ t - V| < |q - V| := by
  have hle := h.normal.resolve_left ht
  calc |(n : ℚ) * 2 ^ t - V| ≤ |((2 ^ 52 : ℤ) : ℚ) * 2 ^ t - V| := h.nearest_multiple _
    _ = V - 2 ^ 52 * 2 ^ t := by
      rw [Int.cast_pow, Int.cast_ofNat, abs_of_nonpos (by linarith), neg_sub]
    _ < V - |q| := by linarith
    _ ≤ |q - V| := by
      rw [abs_sub_comm]
      exact (sub_le_sub_left (le_abs_self q) V).trans (le_abs_self _)

/-- No representable number is nearer than the rounded one. -/
theorem nearest (h : Kept V n t) {q : ℚ} (hq : Representable q) :
    |(n : ℚ) * 2 ^ t - V| ≤ |q - V| := by
  obtain ⟨k, rfl⟩ | ⟨ht, hlt⟩ := hq.multiple_or_lt t
  · exact h.nearest_multiple k
  · exact (h.lt_of_small ht hlt).le

/-- Where another number of a double is as near, both are half a unit away. -/
theorem even_of_tie (h : Kept V n t) {q : ℚ} (hq : Representable q) (hne : q ≠ n * 2 ^ t)
    (htie : |(n : ℚ) * 2 ^ t - V| = |q - V|) : n % 2 = 0 := by
  refine h.even (le_antisymm h.near ?_)
  obtain ⟨k, rfl⟩ | ⟨ht, hlt⟩ := hq.multiple_or_lt t
  · -- the two are a unit apart, and the number is in the middle
    have hapart : (2 : ℚ) ^ t ≤ |(k : ℚ) * 2 ^ t - n * 2 ^ t| := unit_le_abs_sub (j := n) hne.symm
    have htriangle := abs_sub_le ((k : ℚ) * 2 ^ t) V (n * 2 ^ t)
    rw [abs_sub_comm V, ← htie] at htriangle
    linarith
  · exact absurd htie (h.lt_of_small ht hlt).ne

/-- A carry leaves the last digit zero. -/
theorem isEven (h : Kept V n t) (hn : n % 2 = 0) (s : Sign) :
    IsEven (Numeral.onSide s (n * 2 ^ t)) := by
  intro m e hc hq
  have hle := h.le
  have hleast := h.least
  have hlt := hc.lt
  rw [abs_onSide, abs_of_nonneg (by positivity)] at hq
  rcases le_or_gt e t with het | hte
  · have hm : m = n * 2 ^ (t - e).toNat := by
      have hscale : (2 : ℚ) ^ t = 2 ^ (t - e).toNat * 2 ^ e := by
        rw [← zpow_natCast, ← zpow_add₀ two_ne_zero]
        congr 1
        omega
      rw [hscale, ← mul_assoc] at hq
      exact_mod_cast (mul_right_cancel₀ (by positivity) hq).symm
    rw [hm, Nat.mul_mod, hn, Nat.zero_mul]
  · have hm : n = m * 2 ^ (e - t).toNat := by
      have hscale : (2 : ℚ) ^ e = 2 ^ (e - t).toNat * 2 ^ t := by
        rw [← zpow_natCast, ← zpow_add₀ two_ne_zero]
        congr 1
        omega
      rw [hscale, ← mul_assoc] at hq
      exact_mod_cast mul_right_cancel₀ (by positivity) hq
    -- only the carry has more digits than the unit allows
    have hnormal := hc.normal.resolve_right (by omega)
    have htwo : 2 ≤ 2 ^ (e - t).toNat := Nat.le_self_pow (by omega) 2
    have hdouble : m * 2 ≤ n := hm ▸ Nat.mul_le_mul_left m htwo
    omega

/-- A normal value is rounded by at most half a unit of its last place. -/
theorem close (h : Kept V n t) (hV : leastNormal ≤ V) :
    |(n : ℚ) * 2 ^ t - V| ≤ V / 2 ^ 53 := by
  have hle : 2 ^ 52 * 2 ^ t ≤ V := by
    rcases h.normal with rfl | hle
    · exact hV
    · exact hle
  have hnear := h.near
  linarith

/-- Magnitudes that are not too large are rounded to doubles. -/
theorem proper_settle (h : Kept V n t) (hV : V < beyond) (s : Sign) :
    Proper (settle s n t) ∧ exactly (settle s n t) = onSide s (n * 2 ^ t) := by
  have hleast := h.least
  -- with a larger exponent the value would be beyond the bound
  have hmost : t ≤ 971 := by
    by_contra hlarge
    have hnormal := h.normal.resolve_left (by omega)
    have hunit : (2 : ℚ) ^ (971 + 1 : ℤ) ≤ 2 ^ t := zpow_le_zpow_right₀ (by norm_num) (by omega)
    rw [zpow_add_one₀ two_ne_zero] at hunit
    have hpos : (0 : ℚ) < 2 ^ (971 : ℤ) := by positivity
    unfold beyond at hV
    generalize (2 : ℚ) ^ (971 : ℤ) = u at hV hunit hpos
    linarith
  unfold settle
  split
  · rename_i hn
    -- rounding carried into one more bit; at the last exponent that is beyond the bound
    have hcarry : t ≠ 971 := by
      rintro rfl
      have hnear := (abs_le.1 h.near).2
      rw [hn, Nat.cast_pow, Nat.cast_ofNat] at hnear
      unfold beyond at hV
      generalize (2 : ℚ) ^ (971 : ℤ) = u at hV hnear
      linarith
    have hc : Canonical (2 ^ 52) (t + 1) :=
      ⟨by decide, by decide, by omega, by omega, .inl (by decide)⟩
    refine ⟨.finite s hc, ?_⟩
    rw [exactly_finite, hn, zpow_add_one₀ two_ne_zero]
    push_cast
    congr 1
    ring
  · rename_i hn
    split
    · rename_i hzero
      refine ⟨.zero s, ?_⟩
      rw [hzero, Nat.cast_zero, zero_mul]
      cases s <;> simp [exactly, onSide]
    · rename_i hzero
      have hle := h.le
      have hc : Canonical n t := ⟨Nat.pos_of_ne_zero hzero, by omega, hleast, hmost,
        h.normal_units.symm⟩
      exact ⟨.finite s hc, exactly_finite s hc.pos⟩

/-- Magnitudes that are too large are rounded to what no double is. -/
theorem exists_settle (h : Kept V n t) (hV : beyond ≤ V) (s : Sign) :
    ∃ m e, ∃ hm : 0 < m, 971 < e ∧ settle s n t = .finite s m e hm := by
  have hpos : (0 : ℚ) < 2 ^ (971 : ℤ) := by positivity
  have hlarge : 971 ≤ t := by
    by_contra hsmall
    have hunit : (2 : ℚ) ^ t ≤ 2 ^ (971 - 1 : ℤ) := zpow_le_zpow_right₀ (by norm_num) (by omega)
    rw [zpow_sub_one₀ two_ne_zero] at hunit
    have hlt := h.lt
    unfold beyond at hV
    generalize (2 : ℚ) ^ (971 : ℤ) = u at hV hunit hpos
    linarith
  have hunits := h.normal_units.resolve_left (by omega)
  have hle := h.le
  unfold settle
  split
  · exact ⟨2 ^ 52, t + 1, by decide, by omega, rfl⟩
  · rename_i hn
    have ht : t ≠ 971 := by
      rintro rfl
      -- half a unit below a power of two, the last digit is odd and rounding goes up
      have hlast : n + 1 ≤ 2 ^ 53 := by omega
      have hlast' : (n : ℚ) + 1 ≤ 2 ^ 53 := by exact_mod_cast hlast
      have hn' : ((n : ℚ) + 1) * 2 ^ (971 : ℤ) ≤ 2 ^ 53 * 2 ^ (971 : ℤ) :=
        mul_le_mul_of_nonneg_right hlast' hpos.le
      have hnear := (abs_le.1 h.near).1
      have heven := h.even
      unfold beyond at hV
      generalize (2 : ℚ) ^ (971 : ℤ) = u at hV hpos hn' hnear heven
      have hhalf : |(n : ℚ) * u - V| = u / 2 := by
        rw [abs_of_neg (by linarith)]
        linarith
      have heq : ((n : ℚ) + 1) * u = 2 ^ 53 * u := by linarith
      have hodd : n + 1 = 2 ^ 53 := by exact_mod_cast mul_right_cancel₀ hpos.ne' heq
      have := heven hhalf
      omega
    rw [dif_neg (by omega)]
    exact ⟨n, t, by omega, by omega, rfl⟩

end Kept

/-- A magnitude that was rounded to units, with a sign, is rounded to a double. -/
theorem rounds_of_kept {V : ℚ} {n : ℕ} {t : ℤ} (h : Kept V n t) (hV : 0 ≤ V) (s : Sign) :
    Rounds (onSide s V) (Float.ofModel (Float.Model.pack (settle s n t))) := by
  have habs : |onSide s V| = V := by rw [abs_onSide, abs_of_nonneg hV]
  have hrational : V < beyond →
      rational (Float.ofModel (Float.Model.pack (settle s n t))) = onSide s (n * 2 ^ t) :=
    fun hlt => by rw [rational_pack (h.proper_settle hlt s).1, (h.proper_settle hlt s).2]
  have hside : ∀ q, onSide s (onSide s q) = q := fun q => by cases s <;> simp [onSide]
  refine ⟨fun hlt => ?_, fun hlt z hz => ?_, fun hlt z hz hne htie => ?_, fun hlt hle => ?_,
    fun hle => ?_⟩
  -- finite, nearest, even in a tie, near relative to the value, and infinite beyond the bound
  all_goals rw [habs] at *
  · exact isFinite_pack (h.proper_settle hlt s).1.fits
  · rw [hrational hlt, onSide_sub, abs_onSide, ← hside (rational z), onSide_sub, abs_onSide]
    exact h.nearest ((representable_rational hz).onSide s)
  · rw [hrational hlt] at hne htie ⊢
    rw [onSide_sub, abs_onSide, ← hside (rational z), onSide_sub, abs_onSide] at htie
    have hside' := (representable_rational hz).onSide s
    refine h.isEven (h.even_of_tie hside' (fun heq => hne ?_) htie) s
    rw [← heq, hside]
  · rw [hrational hlt, onSide_sub, abs_onSide]
    exact h.close hle
  · obtain ⟨m, e, hm, he, hsettle⟩ := h.exists_settle hle s
    rw [hsettle, pack_of_lt s hm he]
    have hpos : 0 < V := lt_of_lt_of_le beyond_pos hle
    rw [decide_onSide_lt_zero s hpos]

/-! ## Products and quotients -/

/-- What is exactly zero is rounded to zero. -/
theorem rounds_zero (s : Sign) : Rounds 0 (Float.ofModel (Float.Model.pack (.zero s))) := by
  have hrational : rational (Float.ofModel (Float.Model.pack (.zero s))) = 0 :=
    rational_pack (.zero s)
  refine ⟨fun _ => isFinite_pack trivial, fun _ z _ => ?_, fun _ z _ _ _ m e hc hq => ?_,
    fun _ _ => ?_, fun hle => ?_⟩
  · rw [hrational, sub_zero, abs_zero]
    exact abs_nonneg _
  · have hpos := hc.pos
    rw [hrational, abs_zero] at hq
    exact absurd hq (by positivity)
  · rw [hrational, sub_zero, abs_zero, zero_div]
  · rw [abs_zero] at hle
    exact absurd hle (not_le.2 beyond_pos)

/-- Magnitudes whose digits reach down to those of a double are rounded. -/
theorem rounds_roundWithAccuracy {m : ℕ} {e : ℤ} {a : Accuracy} (s : Sign)
    (hv : Lies (ExtendedMantissa.ofMantissaAndAccuracy m a) v) (hdeep : e ≤ -1074 ∨ 2 ^ 52 ≤ m) :
    Rounds (onSide s (v * 2 ^ e))
      (Float.ofModel (Float.Model.pack (roundWithAccuracy Format.binary64 s m e a))) := by
  obtain ⟨n, t, hkept, hround⟩ := exists_kept s hv hdeep
  have hv' : 0 ≤ v := (Nat.cast_nonneg _).trans hv.mantissa_le
  rw [hround]
  exact rounds_of_kept hkept (by positivity) s

variable {x y : Float}

/-- The product of finite doubles is rounded from the product of the numbers. -/
theorem rounds_mul (hx : isFinite x = true) (hy : isFinite y = true) :
    Rounds (rational x * rational y) (x * y) := by
  show Rounds _ (Float.ofModel (Float.Model.pack
    (UnpackedFloat.mul Format.binary64 x.toModel.unpack y.toModel.unpack)))
  have hproper := proper_of_isFinite hx
  have hproper' := proper_of_isFinite hy
  rw [rational_eq_exactly, rational_eq_exactly]
  generalize x.toModel.unpack = u, y.toModel.unpack = w at hproper hproper' ⊢
  cases hproper with
  | zero s =>
    rw [show exactly (.zero s) = 0 from rfl, zero_mul]
    cases hproper' with
    | zero s' => exact rounds_zero _
    | finite s' h' => exact rounds_zero _
  | finite s h =>
    cases hproper' with
    | zero s' =>
      rw [show exactly (.zero s') = 0 from rfl, mul_zero]
      exact rounds_zero _
    | finite s' h' =>
      rename_i m e m' e'
      have hproduct : onSide s (m * 2 ^ e) * onSide s' (m' * 2 ^ e') =
          onSide (s * s') ((m * m' : ℕ) * 2 ^ (e + e')) := by
        rw [← onSide_mul, zpow_add₀ two_ne_zero]
        congr 1
        push_cast
        ring
      rw [exactly_finite, exactly_finite, hproduct]
      refine rounds_roundWithAccuracy (s * s') (lies_exact (m * m')) ?_
      -- one factor has all digits, or both have the least exponent
      rcases h.normal with hm | he
      · exact .inr (hm.trans (Nat.le_mul_of_pos_right m h'.pos))
      · rcases h'.normal with hm' | he'
        · exact .inr (hm'.trans (Nat.le_mul_of_pos_left m' h.pos))
        · exact .inl (by omega)

/-- A dividend is shifted as far as the quotient needs digits. -/
theorem divCore_eq (m : ℕ) (e : ℤ) (m' : ℕ) (e' : ℤ) : ∃ (k : ℕ) (t : ℤ), t + k = e - e' ∧
    (t ≤ -1074 ∨ m'.log2 + 53 ≤ m.log2 + k) ∧
    divCore Format.binary64 m e m' e' =
      (m * 2 ^ k / m', t, accuracyOfFraction (m * 2 ^ k % m') m') := by
  have htarget : Format.binary64.targetExponent (totalExponent m e - totalExponent m' e') =
      max (m.log2 + e - (m'.log2 + e') - 53) (-1074) := by
    have hleast : Format.minExponent Format.binary64 = -1074 := by decide
    have hdigits : Format.mantissaBits Format.binary64 = 53 := by decide
    rw [Format.targetExponent, totalExponent, totalExponent, hleast, hdigits]
    omega
  refine ⟨(e - e' - min (e - e') (max (m.log2 + e - (m'.log2 + e') - 53) (-1074))).toNat,
    min (e - e') (max (m.log2 + e - (m'.log2 + e') - 53) (-1074)), ?_, ?_, ?_⟩
  · omega
  · omega
  · rw [divCore, htarget, Nat.shiftLeft_eq]

/-- A dividend that is shifted so far leaves as many digits as a double has. -/
theorem digits_le_div {m m' k : ℕ} (h : 0 < m) (h' : 0 < m') (hk : m'.log2 + 53 ≤ m.log2 + k) :
    2 ^ 52 ≤ m * 2 ^ k / m' := by
  rw [Nat.le_div_iff_mul_le h']
  calc 2 ^ 52 * m' ≤ 2 ^ 52 * 2 ^ (m'.log2 + 1) :=
        Nat.mul_le_mul_left _ Nat.lt_log2_self.le
    _ = 2 ^ (m'.log2 + 53) := by
      rw [← pow_add]
      congr 1
      omega
    _ ≤ 2 ^ (m.log2 + k) := Nat.pow_le_pow_right (by decide) hk
    _ = 2 ^ m.log2 * 2 ^ k := pow_add _ _ _
    _ ≤ m * 2 ^ k := Nat.mul_le_mul_right _ (Nat.log2_self_le h.ne')

/-- The quotient of two magnitudes is rounded, whatever their digits and exponents are. -/
theorem rounds_div_finite (s s' : Sign) {m m' : ℕ} (hm : 0 < m) (hm' : 0 < m') (e e' : ℤ) :
    Rounds (onSide s (m * 2 ^ e) / onSide s' (m' * 2 ^ e'))
      (Float.ofModel (Float.Model.pack (UnpackedFloat.div Format.binary64 (.finite s m e hm)
        (.finite s' m' e' hm')))) := by
  obtain ⟨k, t, hk, hdeep, hcore⟩ := divCore_eq m e m' e'
  -- the quotient of the mantissas is taken with enough further bits
  have hquotient : onSide s (m * 2 ^ e) / onSide s' (m' * 2 ^ e') =
      onSide (s / s') ((m * 2 ^ k : ℕ) / m' * 2 ^ t) := by
    have hexponents : e = t + k + e' := by omega
    rw [← onSide_div, hexponents, zpow_add₀ two_ne_zero, zpow_add₀ two_ne_zero, zpow_natCast,
      ← mul_assoc, mul_div_mul_right _ _ (zpow_ne_zero _ two_ne_zero)]
    congr 1
    push_cast
    ring
  rw [hquotient, UnpackedFloat.div, hcore]
  exact rounds_roundWithAccuracy (s / s') (lies_fraction (m * 2 ^ k) hm')
    (hdeep.imp_right (digits_le_div hm hm'))

/-- The quotient by a finite double other than zero is rounded from the quotient of the numbers. -/
theorem rounds_div (hx : isFinite x = true) (hy : isFinite y = true) (hne : rational y ≠ 0) :
    Rounds (rational x / rational y) (x / y) := by
  show Rounds _ (Float.ofModel (Float.Model.pack
    (UnpackedFloat.div Format.binary64 x.toModel.unpack y.toModel.unpack)))
  have hproper := proper_of_isFinite hx
  have hproper' := proper_of_isFinite hy
  rw [rational_eq_exactly] at hne
  rw [rational_eq_exactly, rational_eq_exactly]
  generalize x.toModel.unpack = u, y.toModel.unpack = w at hproper hproper' hne ⊢
  cases hproper' with
  | zero s' => exact absurd rfl hne
  | finite s' h' =>
    cases hproper with
    | zero s =>
      rw [show exactly (.zero s) = 0 from rfl, zero_div]
      exact rounds_zero _
    | finite s h =>
      rw [exactly_finite, exactly_finite]
      exact rounds_div_finite s s' h.pos h'.pos _ _

end Metrology.Numeral
