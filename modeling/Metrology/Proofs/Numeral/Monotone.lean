import Metrology.Proofs.Numeral.Order
import Metrology.Proofs.Numeral.Truncation

/-!
# Rounding to decimal places is monotone

Rounding a double to decimal places takes two steps: the exact value is rounded to a decimal, and
the decimal is rounded to a double. Neither of them turns two numbers around, and where the first
one takes two numbers to the same decimal, the second one gives the same double. So rounding to any
number of decimal places is monotone (`monotoneRounding`).
-/

namespace Metrology.Numeral

open Float.Model Float.Model.UnpackedFloat

/-! ## Decimals -/

/-- Rounding a quotient to a whole number is rounding its whole part by what the remainder says. -/
theorem roundedMantissa_fraction (num : ℕ) {den : ℕ} (h : 0 < den) :
    (ExtendedMantissa.ofMantissaAndAccuracy (num / den)
      (accuracyOfFraction (num % den) den)).roundedMantissa = roundQuotient num den := by
  unfold accuracyOfFraction roundQuotient
  split
  · have hlt : compare (2 * (num % den)) den = .lt := Nat.compare_eq_lt.2 (by omega)
    simp only [hlt]
    rfl
  · dsimp only
    cases compare (2 * (num % den)) den with
    | lt => rfl
    | gt => rfl
    | eq =>
      -- in the middle the even one is taken
      show num / den + num / den % 2 = if num / den % 2 == 0 then num / den else num / den + 1
      split
      · rename_i heven
        rw [eq_of_beq heven, add_zero]
      · rename_i hodd
        rw [beq_iff_eq] at hodd
        omega

/-- Rounding to whole numbers is monotone. -/
theorem roundQuotient_mono {num den num' den' : ℕ} (h : 0 < den) (h' : 0 < den')
    (hle : (num : ℚ) / den ≤ num' / den') : roundQuotient num den ≤ roundQuotient num' den' := by
  have hlies := lies_fraction num h
  have hlies' := lies_fraction num' h'
  have hnear := abs_le.1 hlies.near
  have hnear' := abs_le.1 hlies'.near
  have heven := hlies.even
  have heven' := hlies'.even
  rw [roundedMantissa_fraction num h] at hnear heven
  rw [roundedMantissa_fraction num' h'] at hnear' heven'
  by_contra hlt
  have hsucc : (roundQuotient num' den' : ℚ) + 1 ≤ roundQuotient num den := by
    exact_mod_cast not_le.1 hlt
  -- both quotients would be the half between two whole numbers, of which one is odd
  have hhalf : (roundQuotient num den : ℚ) - num / den = 1 / 2 := by linarith
  have hhalf' : (roundQuotient num' den' : ℚ) - num' / den' = -(1 / 2) := by linarith
  have hneighbours : (roundQuotient num den : ℚ) = (roundQuotient num' den' : ℚ) + 1 := by linarith
  have hparity : roundQuotient num den = roundQuotient num' den' + 1 := by
    exact_mod_cast hneighbours
  have := heven (by rw [hhalf, abs_of_pos (by norm_num)])
  have := heven' (by rw [hhalf', abs_neg, abs_of_pos (by norm_num)])
  omega

/-! ## From decimals to doubles -/

theorem isFinite_infinity (negative : Bool) : isFinite (signed negative infinity) = false := by
  cases negative <;> decide +kernel

/-- What is rounded to a finite double is nearer to it than to other doubles. -/
theorem Rounds.nearest_of_isFinite {v : ℚ} {y z : Float} (h : Rounds v y)
    (hy : isFinite y = true) (hz : isFinite z = true) : |rational y - v| ≤ |rational z - v| := by
  refine h.nearest ?_ z hz
  by_contra hle
  rw [h.infinite (not_lt.1 hle), isFinite_infinity] at hy
  cases hy

/-- Rounding to doubles does not turn two numbers around. -/
theorem Rounds.rational_le {v w : ℚ} {y z : Float} (hv : Rounds v y) (hw : Rounds w z)
    (hy : isFinite y = true) (hz : isFinite z = true) (hlt : v < w) :
    rational y ≤ rational z := by
  have hnear := (nearer_iff _ _ _).1 (hv.nearest_of_isFinite hy hz)
  have hnear' := (nearer_iff _ _ _).1 (hw.nearest_of_isFinite hz hy)
  by_contra hgt
  -- the middle between the two doubles is at most the one number and at least the other
  have hpos := mul_pos (sub_pos.2 (not_le.1 hgt)) (sub_pos.2 hlt)
  linarith

/-! ## Rounding doubles -/

/-- The quotient that a magnitude is scaled to. -/
theorem scaledFraction_eq (b : Binary) (p : ℕ) :
    0 < (b.scaledFraction p).2 ∧
      ((b.scaledFraction p).1 : ℚ) / (b.scaledFraction p).2 = b.rational * 10 ^ p := by
  obtain ⟨m, e, narrow⟩ := b
  have hplaces : (-(p : ℤ)).toNat = 0 := by omega
  show 0 < 2 ^ (-e).toNat * 10 ^ (-(p : ℤ)).toNat ∧
    ((m * 2 ^ e.toNat * 10 ^ p : ℕ) : ℚ) / (2 ^ (-e).toNat * 10 ^ (-(p : ℤ)).toNat : ℕ) =
      m * 2 ^ e * 10 ^ p
  rw [hplaces, pow_zero, mul_one]
  refine ⟨by positivity, ?_⟩
  -- one of the two powers is 1
  have hexponent : (2 : ℚ) ^ e = 2 ^ e.toNat / 2 ^ (-e).toNat := by
    rw [← zpow_natCast, ← zpow_natCast, ← zpow_sub₀ two_ne_zero]
    congr 1
    omega
  rw [hexponent]
  push_cast
  ring

/-- A larger magnitude is rounded to a decimal that is not smaller. -/
theorem digits_roundedTo_mono {b b' : Binary} (h : b.rational ≤ b'.rational) (p : ℕ) :
    (b.roundedTo p).digits ≤ (b'.roundedTo p).digits := by
  obtain ⟨hden, heq⟩ := scaledFraction_eq b p
  obtain ⟨hden', heq'⟩ := scaledFraction_eq b' p
  have hscaled : ((b.scaledFraction p).1 : ℚ) / (b.scaledFraction p).2 ≤
      (b'.scaledFraction p).1 / (b'.scaledFraction p).2 := by
    rw [heq, heq']
    exact mul_le_mul_of_nonneg_right h (by positivity)
  exact roundQuotient_mono hden hden' hscaled

/-- The number of the double that a magnitude is rounded to. -/
def Binary.rounded (b : Binary) (p : ℕ) : ℚ := Numeral.rational (b.roundedTo p).toFloat

variable {x y : Float} {negative negative' : Bool} {b b' : Binary} {p : ℕ}

/-- A larger magnitude of a double is rounded to a double that is not smaller. -/
theorem rounded_mono (hx : anatomy x = .finite negative b) (hy : anatomy y = .finite negative' b')
    (hp : p ≤ 323) (h : b.rational ≤ b'.rational) : b.rounded p ≤ b'.rounded p := by
  obtain ⟨hm, he⟩ := anatomy_bounds hx
  obtain ⟨hm', he'⟩ := anatomy_bounds hy
  have hrounded := rounded_roundedTo hm he p
  have hrounded' := rounded_roundedTo hm' he' p
  rcases (digits_roundedTo_mono h p).eq_or_lt with heq | hlt
  · -- the same decimal is the same double
    have hsame : b.roundedTo p = b'.roundedTo p := congrArg (Decimal.mk · (-p)) heq
    rw [Binary.rounded, Binary.rounded, hsame]
  · have hscale : ((b.roundedTo p).digits : ℚ) / 10 ^ p < (b'.roundedTo p).digits / 10 ^ p :=
      div_lt_div_of_pos_right (by exact_mod_cast hlt) (by positivity)
    exact (rounds_decimal hrounded hp).rational_le (rounds_decimal hrounded' hp)
      (isFinite_decimal hrounded hp) (isFinite_decimal hrounded' hp) hscale

/-- A magnitude is not negative. -/
theorem Binary.rational_nonneg (b : Binary) : 0 ≤ b.rational := by
  unfold Binary.rational
  positivity

/-- Nothing is rounded to nothing. -/
theorem rounded_of_rational_eq_zero (h : b.rational = 0) (p : ℕ) : b.rounded p = 0 := by
  obtain ⟨m, e, narrow⟩ := b
  obtain rfl : m = 0 := by
    simpa [Binary.rational, zpow_ne_zero] using h
  rw [Binary.rounded, roundedTo_zero]
  exact rational_zero

/-- A magnitude is not rounded to a negative number. -/
theorem rounded_nonneg (hx : anatomy x = .finite negative b) (hp : p ≤ 323) : 0 ≤ b.rounded p := by
  have hmono := rounded_mono anatomy_zero hx hp (by simpa [Binary.rational] using b.rational_nonneg)
  rwa [rounded_of_rational_eq_zero (by simp [Binary.rational])] at hmono

/-- Finite doubles are rounded by their magnitudes. -/
theorem roundTo?_eq (hx : anatomy x = .finite negative b) (hp : p ≤ 323) :
    ∃ x', roundTo? x p = some x' ∧ isFinite x' = true ∧
      rational x' = if negative then -b.rounded p else b.rounded p := by
  obtain ⟨hround, hfinite⟩ := roundTo?_of_finite hx (Int.natCast_nonneg p)
  have hmost : ¬323 < (p : ℤ) := by omega
  rw [if_neg hmost] at hround
  exact ⟨_, hround, isFinite_signed negative (hfinite hmost),
    rational_signed negative (hfinite hmost)⟩

/-- Rounding finite doubles to decimal places is monotone. -/
theorem rational_roundTo?_mono (hx : isFinite x = true) (hy : isFinite y = true) (hp : p ≤ 323)
    (h : rational x ≤ rational y) : ∃ x' y', roundTo? x p = some x' ∧ roundTo? y p = some y' ∧
      isFinite x' = true ∧ isFinite y' = true ∧ rational x' ≤ rational y' := by
  obtain ⟨negative, b, hb⟩ := exists_anatomy_of_isFinite hx
  obtain ⟨negative', b', hb'⟩ := exists_anatomy_of_isFinite hy
  obtain ⟨x', hx', hfinite, hrational⟩ := roundTo?_eq hb hp
  obtain ⟨y', hy', hfinite', hrational'⟩ := roundTo?_eq hb' hp
  refine ⟨x', y', hx', hy', hfinite, hfinite', ?_⟩
  have hnonneg := b.rational_nonneg
  have hnonneg' := b'.rational_nonneg
  have hrounded := rounded_nonneg hb hp
  have hrounded' := rounded_nonneg hb' hp
  rw [rational, rational, hb, hb'] at h
  rw [hrational, hrational']
  cases negative with
  | false =>
    cases negative' with
    | false => exact rounded_mono hb hb' hp h
    | true =>
      -- what is at most the opposite of a magnitude is zero, and so is the magnitude
      simp only [Bool.false_eq_true, if_false, if_true] at h ⊢
      rw [rounded_of_rational_eq_zero (by linarith), rounded_of_rational_eq_zero (by linarith),
        neg_zero]
  | true =>
    cases negative' with
    | false =>
      simp only [Bool.false_eq_true, if_false, if_true]
      linarith
    | true => exact neg_le_neg (rounded_mono hb' hb hp (neg_le_neg_iff.1 h))

/-! ## Every number of places -/

/-- An infinity and a NaN are not rounded. -/
theorem roundTo?_of_not_isFinite (hx : isFinite x = false) (places : ℤ) :
    roundTo? x places = some x := by
  unfold roundTo?
  unfold isFinite at hx
  split
  · rename_i hb
    rw [hb] at hx
    cases hx
  · rfl

/-- Beyond the last place of all doubles, nothing is rounded. -/
theorem roundTo?_of_lt {places : ℤ} (h : 323 < places) (x : Float) :
    roundTo? x places = some x := by
  unfold roundTo?
  split
  · rw [if_pos h]
  · rfl

/-- Apart from NaN, what is not finite stands at one of the two ends. -/
theorem level_of_not_isFinite (h : x.isNaN = false) (hx : isFinite x = false) :
    level x = ⊥ ∨ level x = ⊤ := by
  have hnumbered := numbered_of_isNaN h
  unfold isFinite at hx
  rw [anatomy_eq] at hx
  unfold level
  generalize x.toModel.unpack = u at hx hnumbered
  cases hnumbered with
  | proper hu => cases hu <;> cases hx
  | infinity s =>
    cases s with
    | positive => exact .inr rfl
    | negative => exact .inl rfl

/-- A finite double stands above minus infinity. -/
theorem bot_lt_level (h : isFinite x = true) : ⊥ < level x := by
  rw [level_of_isFinite h]
  exact WithBot.bot_lt_coe _

/-- A finite double stands below infinity. -/
theorem level_lt_top (h : isFinite x = true) : level x < ⊤ := by
  rw [level_of_isFinite h]
  exact WithBot.coe_lt_coe.2 (WithTop.coe_lt_top _)

/-- Infinities stay where they are, below and above whatever finite doubles are rounded to. -/
theorem level_roundTo?_mono {x' y' : Float} (hx : x.isNaN = false) (hy : y.isNaN = false)
    (hp : p ≤ 323) (hle : level x ≤ level y) (hx' : roundTo? x p = some x')
    (hy' : roundTo? y p = some y') : level x' ≤ level y' := by
  cases hfinite : isFinite x with
  | true =>
    cases hfinite' : isFinite y with
    | true =>
      rw [level_of_isFinite hfinite, level_of_isFinite hfinite',
        strictMono_finite.le_iff_le] at hle
      obtain ⟨x₀, y₀, hx₀, hy₀, hrounded, hrounded', hrational⟩ :=
        rational_roundTo?_mono hfinite hfinite' hp hle
      obtain rfl : x₀ = x' := Option.some.inj (hx₀.symm.trans hx')
      obtain rfl : y₀ = y' := Option.some.inj (hy₀.symm.trans hy')
      rw [level_of_isFinite hrounded, level_of_isFinite hrounded', strictMono_finite.le_iff_le]
      exact hrational
    | false =>
      have htop : level y = ⊤ := (level_of_not_isFinite hy hfinite').resolve_left
        ((bot_lt_level hfinite).trans_le hle).ne'
      rw [roundTo?_of_not_isFinite hfinite'] at hy'
      cases hy'
      rw [htop]
      exact le_top
  | false =>
    rw [roundTo?_of_not_isFinite hfinite] at hx'
    cases hx'
    cases hfinite' : isFinite y with
    | true =>
      have hbot : level x = ⊥ := (level_of_not_isFinite hx hfinite).resolve_right
        (hle.trans_lt (level_lt_top hfinite')).ne
      rw [hbot]
      exact bot_le
    | false =>
      rw [roundTo?_of_not_isFinite hfinite'] at hy'
      cases hy'
      exact hle

/-- Rounding makes no NaN. -/
theorem isNaN_roundTo? {places : ℤ} (h : 0 ≤ places) {x' : Float} (hx : x.isNaN = false)
    (hx' : roundTo? x places = some x') : x'.isNaN = false := by
  cases hfinite : isFinite x with
  | true =>
    obtain ⟨x₀, hx₀, hrounded⟩ := exists_roundTo? x h
    obtain rfl : x₀ = x' := Option.some.inj (hx₀.symm.trans hx')
    exact isNaN_of_isFinite (hrounded hfinite)
  | false =>
    rw [roundTo?_of_not_isFinite hfinite] at hx'
    cases hx'
    exact hx

/-- Rounding to decimal places, none of them in front of the point, is monotone. -/
theorem monotoneRounding {places : ℤ} (h : 0 ≤ places) : MonotoneRounding places := by
  refine ⟨fun x _ => (exists_roundTo? x h).imp fun _ hx => hx.1, ?_⟩
  intro x y x' y' hle hx' hy'
  by_cases hmost : 323 < places
  · obtain rfl : x = x' := Option.some.inj ((roundTo?_of_lt hmost x).symm.trans hx')
    obtain rfl : y = y' := Option.some.inj ((roundTo?_of_lt hmost y).symm.trans hy')
    exact hle
  · obtain ⟨p, rfl⟩ := Int.eq_ofNat_of_zero_le h
    obtain ⟨hx, hy⟩ := isNaN_of_le hle
    rw [le_iff_level_le (isNaN_roundTo? h hx hx') (isNaN_roundTo? h hy hy')]
    exact level_roundTo?_mono hx hy (by omega) ((le_iff_level_le hx hy).1 hle) hx' hy'

end Metrology.Numeral
