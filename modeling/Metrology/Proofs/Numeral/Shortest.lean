import Metrology.Proofs.Numeral.Decimal
import Metrology.Proofs.Numeral.Literal

/-!
# Shortest decimals read back

A magnitude covers the numbers from halfway to the double below it up to halfway to the one above
it (`Binary.Covers`). The shortest decimal of a magnitude is among them (`covers_shortest`), and
whatever is among them is rounded to the magnitude (`Rounds.rational_of_covers`).
-/

namespace Metrology.Numeral

open Float.Model Float.Model.UnpackedFloat

/-! ## The numbers that a magnitude covers -/

/-- Halfway to the double below. -/
def Binary.low (b : Binary) : ℚ :=
  (if b.narrowBelow then 4 * b.mantissa - 1 else 4 * b.mantissa - 2 : ℕ) * 2 ^ (b.exponent - 2)

/-- Halfway to the double above. -/
def Binary.high (b : Binary) : ℚ :=
  (4 * b.mantissa + 2 : ℕ) * 2 ^ (b.exponent - 2)

/-- The number lies between the halves to the neighbours of a magnitude. The halves belong to it if
its last digit is zero. -/
structure Binary.Covers (b : Binary) (v : ℚ) : Prop where
  low_le : b.low ≤ v
  le_high : v ≤ b.high
  even : v = b.low ∨ v = b.high → b.mantissa % 2 = 0

theorem zpow_eq_div (c : ℚ) (hc : c ≠ 0) (i : ℤ) : c ^ i = c ^ i.toNat / c ^ (-i).toNat := by
  rw [← zpow_natCast, ← zpow_natCast, ← zpow_sub₀ hc]
  congr 1
  omega

/-- Comparing with whole numbers compares the scaled values. -/
theorem compareScaled_eq_cmp (a : ℕ) (i : ℤ) (n : ℕ) (j : ℤ) :
    compareScaled a i n j = cmp ((a : ℚ) * 10 ^ i) (n * 2 ^ j) := by
  have hpos : (0 : ℚ) < 10 ^ (-i).toNat * 2 ^ (-j).toNat := by positivity
  have hleft : (a : ℚ) * 10 ^ i * (10 ^ (-i).toNat * 2 ^ (-j).toNat) =
      (a * 10 ^ i.toNat * 2 ^ (-j).toNat : ℕ) := by
    rw [zpow_eq_div 10 (by norm_num) i]
    push_cast
    field_simp
  have hright : (n : ℚ) * 2 ^ j * (10 ^ (-i).toNat * 2 ^ (-j).toNat) =
      (n * 2 ^ j.toNat * 10 ^ (-i).toNat : ℕ) := by
    rw [zpow_eq_div 2 (by norm_num) j]
    push_cast
    field_simp
  rw [← cmp_mul_pos_right hpos, hleft, hright, Nat.strictMono_cast.cmp_map_eq, cmp_eq_compare]
  rfl

/-- The decimals that read back are those that the magnitude covers. -/
theorem covers_of_readsBack {b : Binary} {d : Decimal} (h : b.readsBack d = true) :
    b.Covers d.rational := by
  unfold Binary.readsBack at h
  dsimp only at h
  rw [compareScaled_eq_cmp, compareScaled_eq_cmp] at h
  change ((cmp d.rational b.low == .gt || (b.mantissa % 2 == 0 && cmp d.rational b.low == .eq)) &&
    (cmp d.rational b.high == .lt || (b.mantissa % 2 == 0 && cmp d.rational b.high == .eq))) = true
    at h
  simp only [Bool.and_eq_true, Bool.or_eq_true, beq_iff_eq, cmp_eq_gt_iff, cmp_eq_lt_iff,
    cmp_eq_eq_iff] at h
  -- strictly between the bounds, or at one of them with an even mantissa
  obtain ⟨hlow, hhigh⟩ := h
  refine ⟨?_, ?_, ?_⟩
  · exact hlow.elim le_of_lt fun heq => heq.2.ge
  · exact hhigh.elim le_of_lt fun heq => heq.2.le
  · rintro (heq | heq)
    · exact (hlow.resolve_left fun hlt => hlt.ne' heq).1
    · exact (hhigh.resolve_left fun hlt => hlt.ne heq).1

theorem quarter (e : ℤ) : (2 : ℚ) ^ (e - 2) = 2 ^ e / 4 := by
  rw [zpow_sub₀ two_ne_zero]
  norm_num

/-- The upper bound is half a unit of the last place above the value. -/
theorem Binary.high_eq (b : Binary) : b.high = b.rational + 2 ^ b.exponent / 2 := by
  rw [high, rational, quarter]
  push_cast
  ring

section

variable {b : Binary}

/-- At a power of two the lower bound is a quarter of a unit below, since the doubles below it are
closer together. -/
theorem low_eq_of_narrow (hpos : 0 < b.mantissa) (hnarrow : b.narrowBelow = true) :
    b.low = b.rational - 2 ^ b.exponent / 4 := by
  rw [Binary.low, if_pos hnarrow, Binary.rational, quarter, Nat.cast_sub (by omega)]
  push_cast
  ring

/-- Elsewhere the lower bound is half a unit below. -/
theorem low_eq (hpos : 0 < b.mantissa) (hnarrow : b.narrowBelow = false) :
    b.low = b.rational - 2 ^ b.exponent / 2 := by
  rw [Binary.low, hnarrow, if_neg Bool.false_ne_true, Binary.rational, quarter,
    Nat.cast_sub (by omega)]
  push_cast
  ring

/-- The lower bound is positive. -/
theorem low_pos (hpos : 0 < b.mantissa) : 0 < b.low := by
  refine mul_pos (Nat.cast_pos.2 ?_) (by positivity)
  split <;> omega

/-- A magnitude covers itself. -/
theorem covers_rational (hpos : 0 < b.mantissa) : b.Covers b.rational := by
  have hunit : (0 : ℚ) < 2 ^ b.exponent := by positivity
  have hlow : b.low < b.rational := by
    cases hnarrow : b.narrowBelow with
    | true =>
      rw [low_eq_of_narrow hpos hnarrow]
      linarith
    | false =>
      rw [low_eq hpos hnarrow]
      linarith
  have hhigh : b.rational < b.high := by
    rw [b.high_eq]
    linarith
  exact ⟨hlow.le, hhigh.le, fun h => (h.elim hlow.ne' hhigh.ne).elim⟩

/-! ## The search -/

/-- The exact decimal stands for the value of the double. -/
theorem rational_exact (b : Binary) : b.exact.rational = b.rational := by
  unfold Binary.exact Binary.rational Decimal.rational natPower
  simp only [Nat.pow_eq]
  split
  · rename_i he
    rw [zpow_zero, mul_one, zpow_eq_div 2 two_ne_zero b.exponent,
      show (-b.exponent).toNat = 0 by omega, pow_zero, div_one]
    push_cast
    ring
  · rename_i he
    -- a half is five tenths
    have hten : (10 : ℚ) ^ b.exponent = 2 ^ b.exponent / 5 ^ (-b.exponent).toNat := by
      rw [show (10 : ℚ) = 2 * 5 by norm_num, mul_zpow, zpow_eq_div 5 (by norm_num) b.exponent,
        show b.exponent.toNat = 0 by omega, pow_zero, mul_one_div]
    rw [hten]
    push_cast
    field_simp

/-- The exact decimal of a double has at most 1074 places. -/
theorem exponent_exact (h : -1074 ≤ b.exponent) : -1074 ≤ b.exact.exponent := by
  unfold Binary.exact
  split
  · show (-1074 : ℤ) ≤ 0
    decide
  · exact h

/-- What is found on a grid reads back. -/
theorem of_onGrid? {grid : ℤ} {d : Decimal} (h : b.onGrid? grid = some d) :
    b.readsBack d = true ∧ d.exponent = grid := by
  unfold Binary.onGrid? at h
  dsimp only at h
  split at h
  · rename_i hbelow habove
    split at h
    · cases h
      exact ⟨hbelow, rfl⟩
    · cases h
      exact ⟨habove, rfl⟩
    · split at h
      · cases h
        exact ⟨hbelow, rfl⟩
      · cases h
        exact ⟨habove, rfl⟩
  · rename_i hbelow _
    cases h
    exact ⟨hbelow, rfl⟩
  · rename_i _ habove
    cases h
    exact ⟨habove, rfl⟩
  · cases h

/-- The place of the leading digit is not far below the last place of all doubles. -/
theorem least_decimalScale (h : -1074 ≤ b.exponent) : -324 ≤ b.decimalScale := by
  have hfloor : -324 ≤ (((b.mantissa.log2 : ℤ) + b.exponent) * 30103).fdiv 100000 := by
    rw [Int.fdiv_eq_ediv_of_nonneg _ (by decide)]
    omega
  unfold Binary.decimalScale
  dsimp only
  split
  · exact hfloor
  · split
    · omega
    · omega

/-- Zeros at the end do not change the value. -/
theorem Decimal.rational_padded (d : Decimal) (k : ℕ) : (d.padded k).rational = d.rational := by
  rw [Decimal.rational, Decimal.padded, Decimal.rational, zpow_sub₀ (by norm_num), zpow_natCast]
  push_cast
  field_simp

/-- The shortest decimal of a magnitude is among the numbers that it covers. -/
theorem covers_shortest (hpos : 0 < b.mantissa) (h : -1074 ≤ b.exponent) :
    b.Covers b.shortest.rational ∧ -1074 ≤ b.shortest.exponent := by
  unfold Binary.shortest
  rw [if_neg (by simpa using hpos.ne')]
  dsimp only
  generalize hfound : ((List.range 17).findSome? fun n : ℕ =>
    b.onGrid? (b.decimalScale - ((n : ℤ) + 1))).getD b.exact = d
  have hd : b.Covers d.rational ∧ -1074 ≤ d.exponent := by
    -- the first grid with a decimal that reads back, or else all digits
    cases hsome : (List.range 17).findSome? fun n : ℕ =>
        b.onGrid? (b.decimalScale - ((n : ℤ) + 1)) with
    | none =>
      rw [hsome, Option.getD_none] at hfound
      rw [← hfound, rational_exact]
      exact ⟨covers_rational hpos, exponent_exact h⟩
    | some c =>
      rw [hsome, Option.getD_some] at hfound
      obtain ⟨n, hn, hgrid⟩ := List.exists_of_findSome?_eq_some hsome
      obtain ⟨hreads, hexponent⟩ := of_onGrid? hgrid
      have hscale := least_decimalScale h
      have hcount := List.mem_range.1 hn
      rw [← hfound]
      exact ⟨covers_of_readsBack hreads, by omega⟩
  have hdigits : d.digits ≠ 0 := fun hzero => by
    have hrational := (low_pos hpos).trans_le hd.1.low_le
    rw [Decimal.rational, hzero, Nat.cast_zero, zero_mul] at hrational
    exact lt_irrefl _ hrational
  -- leaving zeros out at the end changes neither value nor bounds
  obtain ⟨k, hk⟩ := exists_padded_normal hdigits
  have hexponent : d.normal.exponent - k = d.exponent := congrArg Decimal.exponent hk
  refine ⟨?_, by omega⟩
  rw [← d.normal.rational_padded k, hk]
  exact hd.1

end

/-! ## Rounding to a magnitude -/

section

variable {m : ℕ} {e : ℤ} {q r v p : ℚ} {y z : Float}

/-- Numbers with units that a number of digits does not need are below it by a unit. -/
theorem le_pred_of_lt {M : ℕ} (hM : 2 ^ 52 < M ∨ e = -1074) (hr : Representable r)
    (h : r < M * 2 ^ e) : r ≤ ((M : ℚ) - 1) * 2 ^ e := by
  have hunit : (0 : ℚ) < 2 ^ e := by positivity
  obtain ⟨k, rfl⟩ | ⟨he, hlt⟩ := hr.multiple_or_lt e
  · have hk : k < M := by exact_mod_cast lt_of_mul_lt_mul_right h hunit.le
    have hk' : (k : ℚ) ≤ M - 1 := by
      rw [le_sub_iff_add_le]
      exact_mod_cast hk
    exact mul_le_mul_of_nonneg_right hk' hunit.le
  · have hM' : (2 : ℚ) ^ 52 ≤ M - 1 := by
      rw [le_sub_iff_add_le]
      exact_mod_cast hM.resolve_right he
    exact ((le_abs_self r).trans hlt.le).trans (mul_le_mul_of_nonneg_right hM' hunit.le)

/-- Numbers above a magnitude are above it by a unit. -/
theorem Canonical.succ_le (hc : Canonical m e) (hr : Representable r) (h : (m : ℚ) * 2 ^ e < r) :
    ((m : ℚ) + 1) * 2 ^ e ≤ r := by
  have hunit : (0 : ℚ) < 2 ^ e := by positivity
  obtain ⟨k, rfl⟩ | ⟨he, hlt⟩ := hr.multiple_or_lt e
  · have hk : (m : ℤ) < k := by exact_mod_cast lt_of_mul_lt_mul_right h hunit.le
    have hk' : (m : ℚ) + 1 ≤ k := by exact_mod_cast hk
    exact mul_le_mul_of_nonneg_right hk' hunit.le
  · have hm : (2 : ℚ) ^ 52 ≤ m := by exact_mod_cast hc.normal.resolve_right he
    have hle := mul_le_mul_of_nonneg_right hm hunit.le
    exact absurd (((le_abs_self r).trans hlt.le).trans hle) h.not_ge

/-- A canonical number with an odd mantissa has no even one. -/
theorem Canonical.not_isEven (hc : Canonical m e) (hodd : m % 2 = 1) :
    ¬IsEven ((m : ℚ) * 2 ^ e) := by
  intro heven
  have := heven m e hc (abs_of_nonneg (by positivity))
  omega

section

variable (h : Rounds v y) (hv : |v| < beyond) (hz : isFinite z = true)
include h hv hz

/-- A number that is not beyond the middle to the next one above is not rounded up. The middle must
not be rounded to the next one, which is then odd. -/
theorem Rounds.le_of_middle (hstep : ∀ r, Representable r → rational z < r → p ≤ r)
    (hmiddle : 2 * v ≤ rational z + p) (hodd : 2 * v = rational z + p → ¬IsEven p) :
    rational y ≤ rational z := by
  by_contra hgt
  have hlt := not_le.1 hgt
  have hle := hstep _ (representable_rational (h.finite hv)) hlt
  have hnear := (nearer_iff _ _ _).1 (h.nearest hv z hz)
  have hsum : rational y + rational z - 2 * v ≤ 0 :=
    nonpos_of_mul_nonpos_right hnear (sub_pos.2 hlt)
  obtain rfl : p = rational y := le_antisymm hle (by linarith)
  refine hodd (by linarith) (h.even hv z hz hlt.ne ?_)
  rw [abs_sub_comm (rational z), show v - rational z = rational y - v by linarith]

/-- A value above the middle between a double and the one below it is not rounded below the double;
in the middle, the even one is taken. -/
theorem Rounds.ge_of_middle (hstep : ∀ r, Representable r → r < rational z → r ≤ p)
    (hmiddle : rational z + p ≤ 2 * v) (hodd : 2 * v = rational z + p → ¬IsEven p) :
    rational z ≤ rational y := by
  by_contra hgt
  have hlt := not_le.1 hgt
  have hle := hstep _ (representable_rational (h.finite hv)) hlt
  have hnear := (nearer_iff _ _ _).1 (h.nearest hv z hz)
  have hsum : 0 ≤ rational y + rational z - 2 * v := by
    by_contra hneg
    exact absurd hnear (not_le.2 (mul_pos_of_neg_of_neg (sub_neg.2 hlt) (not_le.1 hneg)))
  obtain rfl : rational y = p := le_antisymm hle (by linarith)
  refine hodd (by linarith) (h.even hv z hz hlt.ne' ?_)
  rw [abs_sub_comm (rational y), show v - rational y = rational z - v by linarith]

end

/-- The magnitude of a double. -/
abbrev magnitude (m : ℕ) (e : ℤ) : Binary :=
  ⟨m, e, m == 2 ^ 52 && -1074 < e⟩

/-- Halfway above the largest double there is an odd one below, so no double covers that. -/
theorem abs_lt_beyond_of_covers (hc : Canonical m e) (hv : (magnitude m e).Covers v) :
    |v| < beyond := by
  have hunit : (2 : ℚ) ^ e ≤ 2 ^ (971 : ℤ) := zpow_le_zpow_right₀ (by norm_num) hc.most
  have hhigh : (magnitude m e).high = (m + 1 / 2) * 2 ^ e := by
    rw [Binary.high_eq, Binary.rational]
    ring
  have hle := hv.le_high
  have hlt := hc.lt
  rw [abs_of_pos ((low_pos hc.pos).trans_le hv.low_le)]
  rw [hhigh] at hle
  unfold beyond
  rcases Nat.mod_two_eq_zero_or_one m with heven | hodd
  -- an even mantissa is not the largest one, so half a unit above it is a finite number
  · have hm : (m : ℚ) + 1 / 2 < 2 ^ 53 - 1 / 2 := by
      have hsucc : (m : ℚ) + 1 < (2 ^ 53 : ℕ) := by exact_mod_cast (by omega : m + 1 < 2 ^ 53)
      push_cast at hsucc
      linarith
    exact hle.trans_lt ((mul_lt_mul_of_pos_right hm (by positivity)).trans_le
      (mul_le_mul_of_nonneg_left hunit (by norm_num)))
  · have hm : (m : ℚ) + 1 / 2 ≤ 2 ^ 53 - 1 / 2 := by
      have hsucc : (m : ℚ) + 1 ≤ (2 ^ 53 : ℕ) := by exact_mod_cast hlt
      push_cast at hsucc
      linarith
    have hne : v ≠ (m + 1 / 2) * 2 ^ e := fun heq => by
      have : m % 2 = 0 := hv.even (.inr (heq.trans hhigh.symm))
      omega
    exact (lt_of_le_of_ne hle hne).trans_le (mul_le_mul hm hunit (by positivity) (by norm_num))

/-- What a magnitude covers is rounded to it. -/
theorem Rounds.rational_of_covers (hc : Canonical m e) (hv : (magnitude m e).Covers v)
    (h : Rounds v y) : isFinite y = true ∧ rational y = m * 2 ^ e := by
  have hlt := abs_lt_beyond_of_covers hc hv
  obtain ⟨z, hz, hzm⟩ := Representable.exists_double (q := m * 2 ^ e)
    (.inr ⟨m, e, hc, abs_of_nonneg (by positivity)⟩)
  have hpos := hc.pos
  have hmost := hc.lt
  have hleast := hc.least
  have hnormal := hc.normal
  have hvalue : (magnitude m e).rational = m * 2 ^ e := rfl
  rw [← hzm]
  refine ⟨h.finite hlt, le_antisymm ?_ ?_⟩
  · have hhigh : (magnitude m e).high = m * 2 ^ e + 2 ^ e / 2 := Binary.high_eq _
    have hle := hv.le_high
    rw [hhigh] at hle
    refine h.le_of_middle hlt hz (p := ((m : ℚ) + 1) * 2 ^ e)
      (fun r hr hgt => hc.succ_le hr (hzm ▸ hgt)) (by linarith) fun heq => ?_
    have heven : m % 2 = 0 := hv.even (.inr (by linarith))
    have hnext : Canonical (m + 1) e := ⟨by omega, by omega, hleast, hc.most, by omega⟩
    exact_mod_cast hnext.not_isEven (by omega)
  · have hle := hv.low_le
    by_cases hnarrow : m = 2 ^ 52 ∧ -1074 < e
    · -- the unit below is half as large
      obtain ⟨rfl, he⟩ := hnarrow
      have hlow : (magnitude (2 ^ 52) e).low = _ := low_eq_of_narrow hpos (by simp [he])
      have hunit : (2 : ℚ) ^ e = 2 * 2 ^ (e - 1) := by
        rw [zpow_sub_one₀ two_ne_zero]
        ring
      rw [hvalue] at hlow
      rw [hlow] at hle
      push_cast at hzm hle hlow
      rw [hunit] at hzm hle hlow
      refine h.ge_of_middle hlt hz (p := ((2 ^ 53 : ℕ) - 1 : ℚ) * 2 ^ (e - 1))
        (fun r hr hr' => le_pred_of_lt (.inl (by decide)) hr ?_) ?_ fun heq => ?_
      · push_cast
        linarith
      · push_cast
        linarith
      · have hnext : Canonical (2 ^ 53 - 1) (e - 1) :=
          ⟨by decide, by decide, by omega, by have := hc.most; omega, .inl (by decide)⟩
        have hne := hnext.not_isEven (by decide)
        rwa [Nat.cast_sub (by decide), Nat.cast_one] at hne
    · have hwide : (m == 2 ^ 52 && decide (-1074 < e)) = false := by
        simpa [Bool.and_eq_false_iff] using hnarrow
      have hlow : (magnitude m e).low = _ := low_eq hpos hwide
      rw [hvalue] at hlow
      rw [hlow] at hle
      refine h.ge_of_middle hlt hz (p := ((m : ℚ) - 1) * 2 ^ e)
        (fun r hr hr' => le_pred_of_lt (by omega) hr (hzm ▸ hr')) (by linarith) fun heq => ?_
      have heven : m % 2 = 0 := hv.even (.inl (by linarith))
      have hnext : Canonical (m - 1) e := ⟨by omega, by omega, hleast, hc.most, by omega⟩
      have hne := hnext.not_isEven (by omega)
      rwa [Nat.cast_sub (by omega), Nat.cast_one] at hne

end

end Metrology.Numeral
