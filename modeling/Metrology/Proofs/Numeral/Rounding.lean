import Metrology.Numeral.Rounding
import Metrology.Proofs.Numeral.Range

/-!
# Rounding to decimal places

Rounding a double to decimal places, none of them in front of the point, never leaves the range of
doubles: a double with a fraction is far below the largest one, and a whole double is its own
rounding (`exists_roundTo?`). Doubles that are the same number round to the same number
(`agree_of_rational_eq`).
-/

namespace Metrology.Numeral

open Float.Model Float.Model.UnpackedFloat

/-! ## Decimals -/

/-- The decimal `digits * 10 ^ (-places)` that comes of rounding a double: it is small, or a whole
double. -/
inductive Rounded (digits places : Nat) : Prop
  | small (h : digits ≤ 2 ^ 52 * 10 ^ places)
  | whole {M j : Nat} (hM : M < 2 ^ 53) (hj : j ≤ 971) (h : digits = M * 2 ^ j * 10 ^ places)

/-- Without places, what is rounded is a whole double. -/
theorem Rounded.eq_of_whole {digits : Nat} (h : Rounded digits 0) :
    ∃ M j, M < 2 ^ 53 ∧ j ≤ 971 ∧ digits = M * 2 ^ j := by
  cases h with
  | small h => exact ⟨digits, 0, by omega, by omega, (mul_one _).symm⟩
  | whole hM hj h => exact ⟨_, _, hM, hj, by rw [h, pow_zero, mul_one]⟩

/-- Whole numbers fit, carried over from an exponent below zero. -/
theorem fits_whole {digits k m : Nat} (h : Rounded digits 0) (hm : m = 1)
    {h₁ : 0 < digits <<< k} {h₂ : 0 < m} :
    Fits (UnpackedFloat.mul Format.binary64 (.finite .positive (digits <<< k) (-k) h₁)
      (.finite .positive m 0 h₂)) := by
  obtain ⟨M, j, hM, hj, heq⟩ := h.eq_of_whole
  have hproduct : digits <<< k * m = M * 2 ^ (j + k) := by
    rw [heq, hm, mul_one, Nat.shiftLeft_eq, pow_add, mul_assoc]
  exact fits_mul_exact h₁ h₂ hproduct hM (by omega) (by omega)

/-- A rounded decimal does not exceed the finite doubles. -/
theorem fits_decimal {digits places : Nat} (h : Rounded digits places) {hpos : 0 < digits}
    {hten : 0 < 10 ^ places} : Fits (UnpackedFloat.div Format.binary64
      (.finite .positive digits 0 hpos) (.finite .positive (10 ^ places) 0 hten)) := by
  cases h with
  | small h =>
    have hten' : 10 ^ places < 2 ^ ((10 ^ places).log2 + 1) := Nat.lt_log2_self
    have hlt : digits < 2 ^ (52 + ((10 ^ places).log2 + 1)) := by
      rw [pow_add]
      exact h.trans_lt (Nat.mul_lt_mul_of_pos_left hten' (by decide))
    have hlog : digits.log2 ≤ 52 + (10 ^ places).log2 := log2_le_of_lt hlt
    exact fits_div hpos hten (by omega)
  | whole hM hj h =>
    subst h
    exact fits_div_exact hten hpos hM hj

/-- Read as a decimal, what was rounded stays finite. -/
theorem fits_ofScientific {digits places : Nat} (h : Rounded digits places) (hp : places ≤ 323) :
    Fits (UnpackedFloat.ofScientific Format.binary64 digits (-places)) := by
  have hbits : (Format.binary64.exponentBits : Nat) = 11 := rfl
  unfold UnpackedFloat.ofScientific
  rw [hbits]
  split
  · trivial
  · rename_i hne
    have hpos : 0 < digits := Nat.pos_of_ne_zero hne
    rw [if_neg (by omega), if_neg (by omega)]
    split
    -- without places it is a whole number
    · obtain rfl : places = 0 := by omega
      have hone : 10 ^ Int.toNat (-((0 : Nat) : Int)) = 1 := by decide
      exact fits_whole h hone
    · have hplaces : (-(-(places : Int))).toNat = places := by omega
      simp only [hplaces]
      exact fits_decimal h

/-- The double that a rounded decimal is read as is finite. -/
theorem isFinite_ofScientific {digits places : Nat} (h : Rounded digits places)
    (hp : places ≤ 323) :
    isFinite (Float.ofScientific digits (decide (0 < places)) places) = true := by
  unfold Float.ofScientific
  dsimp only
  split
  · rename_i hsmall
    -- the short way divides two exact doubles
    by_cases hpos : 0 < places
    · rw [decide_eq_true hpos, if_pos rfl]
      exact isFinite_div (isFinite_toFloat _) (isEightOrMore_powerOfTen places _ hpos)
    · obtain rfl : places = 0 := by omega
      rw [decide_eq_false hpos, if_neg Bool.false_ne_true]
      exact isFinite_mul_one (isFinite_toFloat _) (isOne_powerOfTen _)
  · refine isFinite_pack (?_ : Fits (UnpackedFloat.ofScientific Format.binary64 digits _))
    have hexponent : (if decide (0 < places) = true then Int.negOfNat places
        else Int.ofNat places) = -(places : Int) := by
      by_cases hpos : 0 < places
      · rw [if_pos (decide_eq_true hpos)]
        exact Int.negOfNat_eq
      · obtain rfl : places = 0 := by omega
        rfl
    rw [hexponent]
    exact fits_ofScientific h hp

theorem anatomy_zero : anatomy 0.0 = .finite false ⟨0, -1074, false⟩ := by
  decide +kernel

theorem isFinite_zero : isFinite 0.0 = true := by
  rw [isFinite, anatomy_zero]

theorem rational_zero : rational 0.0 = 0 := by
  simp [rational, anatomy_zero, Binary.rational]

/-- Thirteen bits are fewer than four decimal digits. -/
theorem two_pow_le_ten_pow (n : Nat) : 2 ^ (13 * n) ≤ 10 ^ (4 * n) := by
  rw [pow_mul, pow_mul]
  exact Nat.pow_le_pow_left (by decide) n

/-- A rounded number has no more digits than its bits allow. -/
theorem Rounded.lt {digits places n : Nat} (h : Rounded digits places) (hn : 1024 ≤ 13 * n) :
    digits < 10 ^ (4 * n + places) := by
  have hbits : ∀ {k : Nat}, k < 2 ^ (13 * n) → k * 10 ^ places < 10 ^ (4 * n + places) :=
    fun hk => by
      rw [pow_add]
      exact Nat.mul_lt_mul_of_pos_right (hk.trans_le (two_pow_le_ten_pow n)) (by positivity)
  -- a number that was rounded has few bits before its places, or is whole
  cases h with
  | small h =>
    have hsmall : 2 ^ 52 < 2 ^ (13 * n) := Nat.pow_lt_pow_right (by decide) (by omega)
    exact h.trans_lt (hbits hsmall)
  | whole hM hj h =>
    rename_i M j
    rw [h]
    refine hbits ?_
    calc M * 2 ^ j < 2 ^ 53 * 2 ^ j := Nat.mul_lt_mul_of_pos_right hM (by positivity)
      _ = 2 ^ (53 + j) := (pow_add 2 53 j).symm
      _ ≤ 2 ^ (13 * n) := Nat.pow_le_pow_right (by decide) (by omega)

/-- A rounded number has at most 316 digits before its places. -/
theorem Rounded.digitCount_le {digits places : Nat} (h : Rounded digits places) :
    digitCount digits ≤ 4 * 79 + places :=
  (Nat.length_toDigits_le_iff (by decide) (by omega)).2 (h.lt (by decide))

/-- A decimal that comes of rounding a double is a finite double. -/
theorem isFinite_decimal {digits places : Nat} (h : Rounded digits places) (hp : places ≤ 323) :
    isFinite (Decimal.toFloat ⟨digits, -places⟩) = true := by
  have hcount := h.digitCount_le
  unfold Decimal.toFloat
  dsimp only
  split
  · exact isFinite_zero
  · rw [if_neg (by omega)]
    split
    · exact isFinite_zero
    · have hsign : decide (-(places : Int) < 0) = decide (0 < places) := by
        rw [decide_eq_decide]
        omega
      rw [hsign, Int.natAbs_neg, Int.natAbs_natCast]
      exact isFinite_ofScientific h hp

/-! ## Rounding to decimal places -/

/-- Rounding a quotient goes up by one at most. -/
theorem roundQuotient_le (num den : Nat) : roundQuotient num den ≤ num / den + 1 := by
  unfold roundQuotient
  dsimp only
  split
  · omega
  · omega
  · split <;> omega

/-- A quotient without remainder is not rounded. -/
theorem roundQuotient_mul (n : Nat) {den : Nat} (h : 0 < den) :
    roundQuotient (n * den) den = n := by
  have hlt : Ord.compare (2 * (n * den % den)) den = .lt := by
    rw [Nat.mul_mod_left]
    exact Nat.compare_eq_lt.2 h
  unfold roundQuotient
  simp only [hlt, Nat.mul_div_cancel _ h]

/-- What a magnitude of a double is rounded to, no places in front of the point. -/
theorem rounded_roundedTo {b : Binary} (hm : b.mantissa < 2 ^ 53) (he : b.exponent ≤ 971)
    (p : Nat) : Rounded (b.roundedTo p).digits p := by
  obtain ⟨m, e, narrow⟩ := b
  have hplaces : (-(p : Int)).toNat = 0 := by omega
  show Rounded (roundQuotient (m * 2 ^ e.toNat * 10 ^ p)
    (2 ^ (-e).toNat * 10 ^ (-(p : Int)).toNat)) p
  rw [hplaces, pow_zero, mul_one]
  -- a whole double has nothing to round
  by_cases hpos : 0 ≤ e
  · have hzero : (-e).toNat = 0 := by omega
    have hquotient := roundQuotient_mul (m * 2 ^ e.toNat * 10 ^ p) Nat.one_pos
    rw [mul_one] at hquotient
    rw [hzero, pow_zero]
    have hexponent : e ≤ 971 := he
    exact .whole hm (j := e.toNat) (by omega) hquotient
  · have hzero : e.toNat = 0 := by omega
    obtain ⟨k, hk⟩ : ∃ k, (-e).toNat = k + 1 := ⟨(-e).toNat - 1, by omega⟩
    rw [hzero, pow_zero, mul_one, hk]
    refine .small ((roundQuotient_le _ _).trans (Nat.div_lt_of_lt_mul ?_))
    calc m * 10 ^ p < 2 ^ 53 * 10 ^ p := Nat.mul_lt_mul_of_pos_right hm (by positivity)
      _ = 2 * (2 ^ 52 * 10 ^ p) := by ring
      _ ≤ 2 ^ (k + 1) * (2 ^ 52 * 10 ^ p) := Nat.mul_le_mul_right _ (Nat.le_pow (by omega))

/-- The mantissa of a double has at most 53 bits, and its exponent is at most 971. -/
theorem anatomy_bounds {x : Float} {negative : Bool} {b : Binary}
    (h : anatomy x = .finite negative b) : b.mantissa < 2 ^ 53 ∧ b.exponent ≤ 971 := by
  rw [anatomy_eq] at h
  cases hu : x.toModel.unpack with
  | notANumber => rw [hu] at h; cases h
  | infinity s => rw [hu] at h; cases h
  | zero s =>
    rw [hu] at h
    cases h
    decide
  | finite s m e hm =>
    have hcanonical := canonical_of_unpack hu
    rw [hu] at h
    cases h
    exact ⟨hcanonical.lt, hcanonical.most⟩

/-- A finite double to decimal places: itself, or what its magnitude is rounded to. -/
theorem roundTo?_of_finite {x : Float} {negative : Bool} {b : Binary}
    (hx : anatomy x = .finite negative b) {places : Int} (h : 0 ≤ places) :
    roundTo? x places = some (if 323 < places then x
      else signed negative (b.roundedTo places).toFloat) ∧
    (¬ 323 < places → isFinite (b.roundedTo places).toFloat = true) := by
  obtain ⟨hm, he⟩ := anatomy_bounds hx
  obtain ⟨p, rfl⟩ := Int.eq_ofNat_of_zero_le h
  have hfinite : ¬ 323 < (p : Int) → isFinite (b.roundedTo p).toFloat = true := fun hmost =>
    isFinite_decimal (rounded_roundedTo hm he p) (by omega)
  refine ⟨?_, hfinite⟩
  unfold roundTo?
  rw [hx]
  dsimp only
  by_cases hmost : 323 < (p : Int)
  · rw [if_pos hmost, if_pos hmost]
  · rw [if_neg hmost, if_neg hmost, if_neg (by omega), if_pos (hfinite hmost)]

/-- A finite double has a mantissa and an exponent. -/
theorem exists_anatomy_of_isFinite {x : Float} (h : isFinite x = true) :
    ∃ negative b, anatomy x = .finite negative b := by
  unfold isFinite at h
  split at h
  · exact ⟨_, _, ‹_›⟩
  · cases h

/-- Every double can be rounded to decimal places, and a finite one stays finite. -/
theorem exists_roundTo? (x : Float) {places : Int} (h : 0 ≤ places) :
    ∃ y, roundTo? x places = some y ∧ (isFinite x = true → isFinite y = true) := by
  by_cases hx : isFinite x = true
  · obtain ⟨negative, b, hb⟩ := exists_anatomy_of_isFinite hx
    obtain ⟨hround, hfinite⟩ := roundTo?_of_finite hb h
    refine ⟨_, hround, fun _ => ?_⟩
    split
    · exact hx
    · exact isFinite_signed negative (hfinite ‹_›)
  -- infinities and what is no number stay
  · refine ⟨x, ?_, fun h => absurd h hx⟩
    unfold isFinite at hx
    unfold roundTo?
    split
    · rename_i hb
      rw [hb] at hx
      exact absurd rfl hx
    · rfl

/-! ## Agreement -/

/-- Whether two doubles are equal when they are rounded to decimal places. -/
def agree (places : Int) (x y : Float) : Bool :=
  match roundTo? x places, roundTo? y places with
  | some x, some y => x == y
  | _, _ => false

/-- Two doubles agree where the doubles they are rounded to are equal. -/
theorem agree_of_roundTo? {places : Int} {x y x' y' : Float} (hx : roundTo? x places = some x')
    (hy : roundTo? y places = some y') : agree places x y = (x' == y') := by
  rw [agree, hx, hy]

/-- Agreeing does not depend on the order. -/
theorem agree_comm {places : Int} (h : 0 ≤ places) {x y : Float} (hx : isFinite x = true)
    (hy : isFinite y = true) : agree places x y = agree places y x := by
  obtain ⟨x', hx', hfinite⟩ := exists_roundTo? x h
  obtain ⟨y', hy', hfinite'⟩ := exists_roundTo? y h
  rw [agree_of_roundTo? hx' hy', agree_of_roundTo? hy' hx', Bool.eq_iff_iff,
    beq_iff_rational_eq (hfinite hx) (hfinite' hy), beq_iff_rational_eq (hfinite' hy) (hfinite hx)]
  exact eq_comm

/-- Zero is rounded to the decimal without digits. -/
theorem roundedTo_zero (e : Int) (narrow : Bool) (places : Int) :
    (⟨0, e, narrow⟩ : Binary).roundedTo places = ⟨0, -places⟩ := by
  have hquotient : ∀ n, 0 < n → roundQuotient 0 n = 0 := fun n hn => by
    have hmul := roundQuotient_mul 0 hn
    rwa [Nat.zero_mul] at hmul
  unfold Binary.roundedTo Binary.scaledFraction
  dsimp only
  rw [Nat.zero_mul, Nat.zero_mul, hquotient]
  exact Nat.mul_pos (Nat.pow_pos (by decide)) (Nat.pow_pos (by decide))

/-- The two zeros are equal. -/
theorem beq_signed_zero : ∀ a b : Bool, (signed a 0.0 == signed b 0.0) = true := by
  decide +kernel

/-- Doubles that are the same number agree. -/
theorem agree_of_rational_eq {places : Int} (h : 0 ≤ places) {x y : Float} (hx : isFinite x = true)
    (hy : isFinite y = true) (heq : rational x = rational y) : agree places x y = true := by
  obtain ⟨negative, b, hb⟩ := exists_anatomy_of_isFinite hx
  obtain ⟨negative', b', hb'⟩ := exists_anatomy_of_isFinite hy
  obtain ⟨hround, hfinite⟩ := roundTo?_of_finite hb h
  obtain ⟨hround', -⟩ := roundTo?_of_finite hb' h
  rw [agree_of_roundTo? hround hround']
  by_cases hmost : 323 < places
  · rw [if_pos hmost, if_pos hmost]
    exact (beq_iff_rational_eq hx hy).2 heq
  · rw [if_neg hmost, if_neg hmost]
    -- the doubles are the same, or both are zeros
    obtain hsame | ⟨a, c, ha, hc⟩ := anatomy_eq_or_zero hx hy heq
    · obtain ⟨rfl, rfl⟩ : negative = negative' ∧ b = b' := by
        rw [hb, hb'] at hsame
        exact Anatomy.finite.injEq .. ▸ hsame
      have hrounded := isFinite_signed negative (hfinite hmost)
      exact (beq_iff_rational_eq hrounded hrounded).2 rfl
    · obtain ⟨rfl, rfl⟩ := Anatomy.finite.injEq .. ▸ hb.symm.trans ha
      obtain ⟨rfl, rfl⟩ := Anatomy.finite.injEq .. ▸ hb'.symm.trans hc
      rw [roundedTo_zero]
      exact beq_signed_zero negative negative'

/-- Doubles that do not agree are in order. -/
theorem lt_or_lt_of_not_agree {places : Int} (h : 0 ≤ places) {x y : Float}
    (hx : isFinite x = true) (hy : y.isNaN = false) (hne : agree places x y = false) :
    (x < y ∧ ¬ y < x) ∨ (y < x ∧ ¬ x < y) := by
  by_cases hfinite : isFinite y = true
  · have hrational : rational x ≠ rational y := fun heq => by
      rw [agree_of_rational_eq h hx hfinite heq] at hne
      cases hne
    rw [lt_iff_rational_lt hx hfinite, lt_iff_rational_lt hfinite hx]
    obtain hlt | hgt := lt_or_gt_of_ne hrational
    · exact .inl ⟨hlt, hlt.not_gt⟩
    · exact .inr ⟨hgt, hgt.not_gt⟩
  · exact lt_or_lt_of_not_isFinite hx (Bool.eq_false_iff.2 hfinite) hy

end Metrology.Numeral
