import Mathlib
import Metrology.Numeral.Binary

/-!
# Doubles as rational numbers

A finite double is a rational number, and two of them are in the order of these numbers; the two
zeros are the same number (`lt_iff_rational_lt`, `beq_iff_rational_eq`). The anatomy of a double is
read off the fields of its bits, as the arithmetic of doubles is (`anatomy_eq`).
-/

namespace Metrology.Numeral

open Float.Model Float.Model.UnpackedFloat

/-! ## The fields of the bits -/

section

variable (b : BitVec 64)

/-- The exponent field is the eleven bits above the fraction. -/
theorem toNat_unpackExponent :
    (@unpackExponent Format.binary64 b).toNat = b.toNat / 2 ^ 52 % 2 ^ 11 := by
  simp [unpackExponent, BitVec.extractLsb_toNat, Nat.shiftRight_eq_div_pow]

/-- The fraction is the lower 52 bits. -/
theorem toNat_unpackMantissa :
    (@unpackMantissa Format.binary64 b).toNat = b.toNat % 2 ^ 52 := by
  simp [unpackMantissa, BitVec.extractLsb_toNat]

/-- The sign is the highest bit. -/
theorem toNat_unpackSign :
    (@unpackSign Format.binary64 b).toNat = b.toNat / 2 ^ 63 := by
  have hb := b.isLt
  simp only [unpackSign, BitVec.toNat_cast, BitVec.extractLsb_toNat, Nat.shiftRight_eq_div_pow]
  omega

end

theorem toNat_one_append (f : BitVec 52) : (1#1 ++ f).toNat = 2 ^ 52 + f.toNat := by
  rw [BitVec.toNat_append, ← Nat.shiftLeft_add_eq_or_of_lt f.isLt]
  simp [Nat.shiftLeft_eq]

theorem toNat_field (bits : UInt64) :
    ((bits >>> 52) &&& 0x7FF).toNat = bits.toNat / 2 ^ 52 % 2 ^ 11 := by
  have hmask : (0x7FF : UInt64).toNat = 2 ^ 11 - 1 := by decide
  rw [UInt64.toNat_and, UInt64.toNat_shiftRight, hmask, Nat.and_two_pow_sub_one_eq_mod]
  simp [Nat.shiftRight_eq_div_pow]

theorem toNat_fraction (bits : UInt64) :
    (bits &&& 0xFFFFFFFFFFFFF).toNat = bits.toNat % 2 ^ 52 := by
  have hmask : (0xFFFFFFFFFFFFF : UInt64).toNat = 2 ^ 52 - 1 := by decide
  rw [UInt64.toNat_and, hmask, Nat.and_two_pow_sub_one_eq_mod]

theorem toNat_sign (bits : UInt64) : (bits >>> 63).toNat = bits.toNat / 2 ^ 63 := by
  rw [UInt64.toNat_shiftRight]
  simp [Nat.shiftRight_eq_div_pow]

/-- What a double is by the exponent and the fraction in its bits. -/
inductive Reads (exponent fraction : Nat) (s : Sign) : UnpackedFloat → Prop
  | infinity (he : exponent = 2047) (hf : fraction = 0) : Reads exponent fraction s (.infinity s)
  | notANumber (he : exponent = 2047) (hf : fraction ≠ 0) : Reads exponent fraction s .notANumber
  | zero (he : exponent = 0) (hf : fraction = 0) : Reads exponent fraction s (.zero s)
  | subnormal {e : Int} (he : exponent = 0) (hf : 0 < fraction) (heq : e = -1074) :
      Reads exponent fraction s (.finite s fraction e hf)
  | normal {m : Nat} {e : Int} (he : 0 < exponent) (he' : exponent < 2047) (hm : 0 < m)
      (hmeq : m = 2 ^ 52 + fraction) (heq : e = exponent - 1075) :
      Reads exponent fraction s (.finite s m e hm)

/-- Unpacking bits reads the three fields. -/
theorem reads_unpack (b : BitVec 64) :
    Reads (b.toNat / 2 ^ 52 % 2 ^ 11) (b.toNat % 2 ^ 52)
      (Sign.ofBitVec (@unpackSign Format.binary64 b))
      (UnpackedFloat.unpack Format.binary64 b) := by
  rw [← toNat_unpackExponent, ← toNat_unpackMantissa]
  have hlt : (@unpackExponent Format.binary64 b).toNat < 2 ^ 11 := BitVec.isLt _
  unfold UnpackedFloat.unpack
  dsimp only
  split
  · rename_i hspecial
    -- a full exponent field
    have he : (@unpackExponent Format.binary64 b).toNat = 2047 := by
      rw [hspecial]
      decide
    split
    · rename_i hzero
      exact .infinity he (by rw [hzero]; decide)
    · rename_i hzero
      exact .notANumber he fun h => hzero (BitVec.eq_of_toNat_eq h)
  · rename_i hspecial
    have hne : (@unpackExponent Format.binary64 b).toNat ≠ 2047 := fun h =>
      hspecial (BitVec.eq_of_toNat_eq h)
    split
    · rename_i hexponent
      -- an empty exponent field
      have he : (@unpackExponent Format.binary64 b).toNat = 0 := by
        rw [hexponent]
        decide
      split
      · rename_i hzero
        exact .zero he (by rw [hzero]; decide)
      · exact .subnormal he _ (by simp [he, Format.exponentBias])
    · rename_i hexponent
      have hpos : 0 < (@unpackExponent Format.binary64 b).toNat :=
        Nat.pos_of_ne_zero fun h => hexponent (BitVec.eq_of_toNat_eq h)
      exact .normal hpos (by omega) _ (toNat_one_append _) (by simp [Format.exponentBias])

/-! ## The anatomy of a double -/

/-- The anatomy of an unpacked double. -/
def Anatomy.ofUnpacked : UnpackedFloat → Anatomy
  | .notANumber => .notANumber
  | .infinity s => .infinite (s == .negative)
  | .zero s => .finite (s == .negative) ⟨0, -1074, false⟩
  | .finite s m e _ => .finite (s == .negative) ⟨m, e, m == 2 ^ 52 && -1074 < e⟩

theorem beq_eq_decide_toNat (a b : UInt64) : (a == b) = decide (a.toNat = b.toNat) := by
  rw [Bool.eq_iff_iff, beq_iff_eq, decide_eq_true_iff, UInt64.toNat_inj]

theorem beq_sign (v : BitVec 1) : (Sign.ofBitVec v == .negative) = decide (v.toNat = 1) := by
  revert v
  decide

/-- The anatomy of a double is that of the unpacked double. -/
theorem anatomy_eq (x : Float) : anatomy x = Anatomy.ofUnpacked x.toModel.unpack := by
  have hsign := beq_sign (@unpackSign Format.binary64 x.toModel.toBits.toBitVec)
  rw [toNat_unpackSign] at hsign
  have hreads : Reads (x.toBits.toNat / 2 ^ 52 % 2 ^ 11) (x.toBits.toNat % 2 ^ 52)
      (Sign.ofBitVec (@unpackSign Format.binary64 x.toModel.toBits.toBitVec))
      x.toModel.unpack := reads_unpack x.toModel.toBits.toBitVec
  have hnegative : decide (x.toBits.toNat / 2 ^ 63 = UInt64.toNat 1) = _ := hsign.symm
  unfold anatomy Binary.ofBits natPower
  simp only [beq_eq_decide_toNat, toNat_sign, toNat_field, toNat_fraction, hnegative]
  -- what is left depends on the fields only
  generalize x.toModel.unpack = u, Sign.ofBitVec _ = s, x.toBits.toNat / 2 ^ 52 % 2 ^ 11 = field,
    x.toBits.toNat % 2 ^ 52 = fraction at hreads ⊢
  cases hreads with
  | infinity he hf => simp [he, hf, Anatomy.ofUnpacked]
  | notANumber he hf => simp [he, hf, Anatomy.ofUnpacked]
  | zero he hf => simp [he, hf, Anatomy.ofUnpacked]
  | subnormal he hf heq => simp [he, heq, Anatomy.ofUnpacked]
  | normal he he' hm hmeq heq =>
    subst hmeq heq
    have hfinite : field ≠ UInt64.toNat 0x7FF := he'.ne
    simp only [hfinite, he.ne', decide_false, Bool.false_eq_true, if_false, beq_iff_eq,
      Anatomy.ofUnpacked]
    congr 2
    rw [Bool.eq_iff_iff]
    simp only [Bool.and_eq_true, beq_iff_eq, decide_eq_true_iff]
    omega

/-! ## Canonical magnitudes -/

/-- The magnitude `m * 2 ^ e` of a finite double other than zero: either all digits of the mantissa
are used or the exponent is the least there is. -/
structure Canonical (m : Nat) (e : Int) : Prop where
  pos : 0 < m
  lt : m < 2 ^ 53
  least : -1074 ≤ e
  most : e ≤ 971
  normal : 2 ^ 52 ≤ m ∨ e = -1074

/-- What the fields are read as has a mantissa of 53 bits, or the least exponent. -/
theorem canonical_of_reads {field fraction m : Nat} {s s' : Sign} {e : Int} {hm : 0 < m}
    (h : Reads field fraction s (.finite s' m e hm)) (hf : fraction < 2 ^ 52) : Canonical m e := by
  cases h with
  | subnormal he hpos heq => exact ⟨hpos, by omega, by omega, by omega, .inr heq⟩
  | normal he he' hm hmeq heq => exact ⟨hm, by omega, by omega, by omega, .inl (by omega)⟩

/-- Every finite double has a mantissa of 53 bits, or the least exponent. -/
theorem canonical_of_unpack {x : Float.Model} {s : Sign} {m : Nat} {e : Int} {hm : 0 < m}
    (h : x.unpack = .finite s m e hm) : Canonical m e := by
  have hreads := reads_unpack x.toBits.toBitVec
  change Reads _ _ _ x.unpack at hreads
  rw [h] at hreads
  exact canonical_of_reads hreads (Nat.mod_lt _ (by decide))

/-- Of two canonical magnitudes, the one with the larger exponent is larger. -/
theorem magnitude_lt_of_exponent_lt {m₁ m₂ : Nat} {e₁ e₂ : Int} (h₁ : Canonical m₁ e₁)
    (h₂ : Canonical m₂ e₂) (h : e₁ < e₂) : (m₁ : ℚ) * 2 ^ e₁ < m₂ * 2 ^ e₂ := by
  -- the larger exponent is not the least one, so its mantissa is full
  have hnormal : 2 ^ 52 ≤ m₂ := h₂.normal.resolve_right (by have := h₁.least; omega)
  have hdigits : (2 : ℚ) ^ (e₂ - 1) ≤ 2 ^ e₂ / 2 := by
    rw [zpow_sub_one₀ (by norm_num), div_eq_mul_inv]
  calc (m₁ : ℚ) * 2 ^ e₁
      < 2 ^ 53 * 2 ^ e₁ := by
        gcongr
        exact_mod_cast h₁.lt
    _ ≤ 2 ^ 53 * 2 ^ (e₂ - 1) := by
        gcongr
        · norm_num
        · omega
    _ ≤ 2 ^ 53 * (2 ^ e₂ / 2) := by gcongr
    _ = 2 ^ 52 * 2 ^ e₂ := by ring
    _ ≤ m₂ * 2 ^ e₂ := by
        gcongr
        exact_mod_cast hnormal

/-- Magnitudes compare by their exponents first, and among equal exponents by their mantissas. -/
theorem cmp_magnitude {m₁ m₂ : Nat} {e₁ e₂ : Int} (h₁ : Canonical m₁ e₁) (h₂ : Canonical m₂ e₂) :
    (compare e₁ e₂).then (compare m₁ m₂) = cmp ((m₁ : ℚ) * 2 ^ e₁) (m₂ * 2 ^ e₂) := by
  rcases lt_trichotomy e₁ e₂ with h | h | h
  · rw [compare_lt_iff_lt.2 h, (cmp_eq_lt_iff _ _).2 (magnitude_lt_of_exponent_lt h₁ h₂ h)]
    rfl
  · subst h
    have hpos : (0 : ℚ) < 2 ^ e₁ := by positivity
    rw [compare_eq_iff_eq.2 rfl, cmp_mul_pos_right hpos]
    rw [Nat.strictMono_cast.cmp_map_eq, cmp_eq_compare]
    rfl
  · rw [compare_gt_iff_gt.2 h, (cmp_eq_gt_iff _ _).2 (magnitude_lt_of_exponent_lt h₂ h₁ h)]
    rfl

/-! ## The order of doubles -/

/-- The number that an unpacked double is; what is no number is taken for zero. -/
def exactly : UnpackedFloat → ℚ
  | .finite s m e _ => s.apply m * 2 ^ e
  | _ => 0

/-- A double that is a number, in the form in which all doubles are unpacked. -/
inductive Proper : UnpackedFloat → Prop
  | zero (s : Sign) : Proper (.zero s)
  | finite (s : Sign) {m : Nat} {e : Int} (h : Canonical m e) : Proper (.finite s m e h.pos)

theorem exactly_positive {m : Nat} {e : Int} (hm : 0 < m) :
    exactly (.finite .positive m e hm) = m * 2 ^ e := by
  simp [exactly, Sign.apply]

theorem exactly_negative {m : Nat} {e : Int} (hm : 0 < m) :
    exactly (.finite .negative m e hm) = -(m * 2 ^ e) := by
  simp [exactly, Sign.apply]

theorem exactly_positive_pos {m : Nat} {e : Int} (hm : 0 < m) :
    0 < exactly (.finite .positive m e hm) := by
  rw [exactly_positive]
  positivity

theorem exactly_negative_neg {m : Nat} {e : Int} (hm : 0 < m) :
    exactly (.finite .negative m e hm) < 0 := by
  rw [exactly_negative, neg_neg_iff_pos]
  positivity

/-- Numbers are compared as the rational numbers that they are. -/
theorem compare_eq_cmp {u v : UnpackedFloat} (hu : Proper u) (hv : Proper v) :
    u.compare v = some (cmp (exactly u) (exactly v)) := by
  have hlt : ∀ {a b : ℚ}, a < b → some Ordering.lt = some (cmp a b) := fun h =>
    congrArg some ((cmp_eq_lt_iff _ _).2 h).symm
  have hgt : ∀ {a b : ℚ}, b < a → some Ordering.gt = some (cmp a b) := fun h =>
    congrArg some ((cmp_eq_gt_iff _ _).2 h).symm
  cases hu with
  | zero s =>
    cases hv with
    | zero s' => exact congrArg some ((cmp_eq_eq_iff _ _).2 rfl).symm
    | finite s' h' =>
      cases s' with
      | positive => exact hlt (exactly_positive_pos h'.pos)
      | negative => exact hgt (exactly_negative_neg h'.pos)
  | finite s h =>
    cases s with
    | positive =>
      cases hv with
      | zero s' => exact hgt (exactly_positive_pos h.pos)
      | finite s' h' =>
        cases s' with
        | positive =>
          rw [exactly_positive, exactly_positive, ← cmp_magnitude h h']
          rfl
        | negative => exact hgt ((exactly_negative_neg h'.pos).trans (exactly_positive_pos h.pos))
    | negative =>
      cases hv with
      | zero s' => exact hlt (exactly_negative_neg h.pos)
      | finite s' h' =>
        cases s' with
        | positive => exact hlt ((exactly_negative_neg h.pos).trans (exactly_positive_pos h'.pos))
        | negative =>
          -- on the negative side the larger magnitude is less
          have hanti : StrictAnti (Neg.neg : ℚ → ℚ) := fun _ _ h => neg_lt_neg h
          rw [exactly_negative, exactly_negative, hanti.cmp_map_eq, ← cmp_swap,
            ← cmp_magnitude h h']
          rfl

/-! ## Doubles as rational numbers -/

/-- The number that a magnitude is. -/
def Binary.rational (b : Binary) : ℚ := b.mantissa * 2 ^ b.exponent

/-- The number that a double is; what is no number is taken for zero. -/
def rational (x : Float) : ℚ :=
  match anatomy x with
  | .finite negative b => if negative then -b.rational else b.rational
  | _ => 0

/-- A double stands for the number that its unpacked form stands for. -/
theorem rational_eq_exactly (x : Float) : rational x = exactly x.toModel.unpack := by
  unfold rational
  rw [anatomy_eq]
  cases x.toModel.unpack with
  | notANumber => rfl
  | infinity s => rfl
  | zero s => simp [Anatomy.ofUnpacked, Binary.rational, exactly]
  | finite s m e hm =>
    cases s with
    | negative => exact (exactly_negative hm).symm
    | positive => exact (exactly_positive hm).symm

/-- A finite double is unpacked as a number that a double can hold. -/
theorem proper_of_isFinite {x : Float} (h : isFinite x = true) : Proper x.toModel.unpack := by
  unfold isFinite at h
  rw [anatomy_eq] at h
  cases hx : x.toModel.unpack with
  | notANumber => simp [hx, Anatomy.ofUnpacked] at h
  | infinity s => simp [hx, Anatomy.ofUnpacked] at h
  | zero s => exact .zero s
  | finite s m e hm => exact .finite s (canonical_of_unpack hx)

/-- One double is less than another where comparing the unpacked forms says so. -/
theorem lt_iff_compare {x y : Float} :
    x < y ↔ x.toModel.unpack.compare y.toModel.unpack = some .lt := by
  show decide ((x.toModel.unpack.compare y.toModel.unpack == some .lt) = true) = true ↔ _
  rw [decide_eq_true_iff, beq_iff_eq]

/-- Two doubles are equal where comparing the unpacked forms says so; a NaN is equal to none. -/
theorem beq_iff_compare {x y : Float} :
    (x == y) = true ↔ x.toModel.unpack.compare y.toModel.unpack = some .eq := by
  show (x.toModel.unpack.compare y.toModel.unpack == some .eq) = true ↔ _
  rw [beq_iff_eq]

/-- What equals a finite double is finite. -/
theorem isFinite_of_beq {x y : Float} (hy : isFinite y = true) (h : (x == y) = true) :
    isFinite x = true := by
  have hproper := proper_of_isFinite hy
  rw [beq_iff_compare] at h
  rw [isFinite, anatomy_eq]
  generalize x.toModel.unpack = u, y.toModel.unpack = v at h hproper ⊢
  cases u with
  | notANumber => cases h
  | infinity s => cases hproper <;> cases s <;> cases h
  | zero s => rfl
  | finite s m e hm => rfl

/-- Finite doubles are in the order of the numbers that they are. -/
theorem lt_iff_rational_lt {x y : Float} (hx : isFinite x = true) (hy : isFinite y = true) :
    x < y ↔ rational x < rational y := by
  have hcompare := compare_eq_cmp (proper_of_isFinite hx) (proper_of_isFinite hy)
  rw [← rational_eq_exactly, ← rational_eq_exactly] at hcompare
  rw [lt_iff_compare, hcompare, Option.some.injEq, cmp_eq_lt_iff]

/-- Finite doubles are equal when they are the same number. -/
theorem beq_iff_rational_eq {x y : Float} (hx : isFinite x = true) (hy : isFinite y = true) :
    (x == y) = true ↔ rational x = rational y := by
  have hcompare := compare_eq_cmp (proper_of_isFinite hx) (proper_of_isFinite hy)
  rw [← rational_eq_exactly, ← rational_eq_exactly] at hcompare
  rw [beq_iff_compare, hcompare, Option.some.injEq, cmp_eq_eq_iff]

/-- A number has one canonical magnitude. -/
theorem magnitude_inj {m₁ m₂ : Nat} {e₁ e₂ : Int} (h₁ : Canonical m₁ e₁) (h₂ : Canonical m₂ e₂)
    (h : (m₁ : ℚ) * 2 ^ e₁ = m₂ * 2 ^ e₂) : m₁ = m₂ ∧ e₁ = e₂ := by
  rcases lt_trichotomy e₁ e₂ with hlt | rfl | hgt
  · exact absurd h (magnitude_lt_of_exponent_lt h₁ h₂ hlt).ne
  · have hpos : (2 : ℚ) ^ e₁ ≠ 0 := by positivity
    exact ⟨by exact_mod_cast mul_right_cancel₀ hpos h, rfl⟩
  · exact absurd h.symm (magnitude_lt_of_exponent_lt h₂ h₁ hgt).ne

/-- A finite number with a mantissa is not zero. -/
theorem exactly_ne_zero {s : Sign} {m : Nat} {e : Int} (hm : 0 < m) :
    exactly (.finite s m e hm) ≠ 0 := by
  cases s with
  | positive => exact (exactly_positive_pos hm).ne'
  | negative => exact (exactly_negative_neg hm).ne

/-- The same number is unpacked in one way, or as zeros of two signs. -/
theorem eq_or_zero_of_exactly_eq {u v : UnpackedFloat} (hu : Proper u) (hv : Proper v)
    (h : exactly u = exactly v) : u = v ∨ ∃ a b, u = .zero a ∧ v = .zero b := by
  cases hu with
  | zero a =>
    cases hv with
    | zero b => exact .inr ⟨a, b, rfl, rfl⟩
    | finite b hc => exact absurd h.symm (exactly_ne_zero hc.pos)
  | finite a hc =>
    cases hv with
    | zero b => exact absurd h (exactly_ne_zero hc.pos)
    | finite b hd =>
      -- on one side, the magnitudes are equal and so are their parts
      left
      cases a with
      | positive =>
        cases b with
        | positive =>
          rw [exactly_positive, exactly_positive] at h
          obtain ⟨rfl, rfl⟩ := magnitude_inj hc hd h
          rfl
        | negative =>
          exact absurd h ((exactly_negative_neg hd.pos).trans (exactly_positive_pos hc.pos)).ne'
      | negative =>
        cases b with
        | positive =>
          exact absurd h ((exactly_negative_neg hc.pos).trans (exactly_positive_pos hd.pos)).ne
        | negative =>
          rw [exactly_negative, exactly_negative, neg_inj] at h
          obtain ⟨rfl, rfl⟩ := magnitude_inj hc hd h
          rfl

/-- Doubles that are the same number are taken apart in one way, or as zeros of two signs. -/
theorem anatomy_eq_or_zero {x y : Float} (hx : isFinite x = true) (hy : isFinite y = true)
    (h : rational x = rational y) : anatomy x = anatomy y ∨
      ∃ a b, anatomy x = .finite a ⟨0, -1074, false⟩ ∧ anatomy y = .finite b ⟨0, -1074, false⟩ := by
  rw [rational_eq_exactly, rational_eq_exactly] at h
  rw [anatomy_eq, anatomy_eq]
  obtain heq | ⟨a, b, ha, hb⟩ :=
    eq_or_zero_of_exactly_eq (proper_of_isFinite hx) (proper_of_isFinite hy) h
  · rw [heq]
    exact .inl rfl
  · rw [ha, hb]
    exact .inr ⟨_, _, rfl, rfl⟩

end Metrology.Numeral
