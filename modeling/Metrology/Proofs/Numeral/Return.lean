import Metrology.Proofs.Numeral.Nearest

/-!
# Multiplying and dividing back

A finite double that is multiplied by another one and divided by it again comes back if the product
is a double itself (`Returned.exact`). If all digits of the product are kept, what comes back is the
double or one that is next to it: doubles are farther apart than the two roundings lead
(`Returned.adjacent`). Nothing like it holds for products that are too large or too small.
-/

namespace Metrology.Numeral

open Float.Model Float.Model.UnpackedFloat

/-! ## Gaps between doubles -/

section

variable {a b : ℚ}

/-- A relative error of 2 to the power of -53 is at most a unit of the last place. -/
theorem Canonical.unit_le {m : Nat} {e : Int} (h : Canonical m e) :
    (m : ℚ) * 2 ^ e / 2 ^ 53 ≤ 2 ^ e := by
  have hm : (m : ℚ) ≤ 2 ^ 53 := by exact_mod_cast h.lt.le
  rw [div_le_iff₀ (by positivity), mul_comm (2 ^ e : ℚ)]
  exact mul_le_mul_of_nonneg_right hm (by positivity)

/-- Every representable number is below the bound. -/
theorem Representable.abs_lt_beyond (h : Representable a) : |a| < beyond := by
  have hpos : (0 : ℚ) < 2 ^ (971 : ℤ) := by positivity
  obtain rfl | ⟨m, e, hc, ha⟩ := h
  · rw [abs_zero]
    exact beyond_pos
  · have hlast : m + 1 ≤ 2 ^ 53 := hc.lt
    -- the largest double is a unit of its last place below the next power of two
    have hm : (m : ℚ) ≤ 2 ^ 53 - 1 := by
      rw [le_sub_iff_add_le]
      exact_mod_cast hlast
    have hunit : (2 : ℚ) ^ e ≤ 2 ^ (971 : ℤ) := zpow_le_zpow_right₀ (by norm_num) hc.most
    have hle : (m : ℚ) * 2 ^ e ≤ (2 ^ 53 - 1) * 2 ^ (971 : ℤ) :=
      mul_le_mul hm hunit (by positivity) (by norm_num)
    rw [ha]
    unfold beyond
    generalize (2 : ℚ) ^ (971 : ℤ) = u at hpos hle ⊢
    linarith

/-- Next to a double there is none nearer than the last of its digits tells. -/
theorem Representable.gap (ha : Representable a) (hb : Representable b) (h : a ≠ b) :
    |a| / 2 ^ 53 ≤ |b - a| := by
  have ha' := ha
  obtain rfl | ⟨m, e, hc, habs⟩ := ha
  · rw [abs_zero, zero_div]
    exact abs_nonneg _
  have hnormal : e ≠ -1074 → 2 ^ 52 * 2 ^ e ≤ |a| := by
    intro he
    have hm : (2 : ℚ) ^ 52 ≤ m := by exact_mod_cast hc.normal.resolve_right he
    rw [habs]
    exact mul_le_mul_of_nonneg_right hm (by positivity)
  obtain ⟨j, hj⟩ : ∃ j : ℤ, a = j * 2 ^ e :=
    (ha'.multiple_or_lt e).resolve_right fun hlt => (hnormal hlt.1).not_gt hlt.2
  obtain ⟨k, hk⟩ | ⟨he, hlt⟩ := hb.multiple_or_lt e
  · rw [habs]
    refine hc.unit_le.trans ?_
    rw [hj, hk]
    exact unit_le_abs_sub (hj ▸ hk ▸ h)
  · -- doubles with smaller units are below the first one with these, below which units are smaller
    have hleast := hnormal he
    have hunit : (2 : ℚ) ^ e = 2 * 2 ^ (e - 1) := by
      rw [zpow_sub_one₀ two_ne_zero]
      ring
    have hsub : |a| - |b| ≤ |b - a| := abs_sub_comm a b ▸ abs_sub_abs_le_abs_sub a b
    have hpos : (0 : ℚ) < 2 ^ (e - 1) := by positivity
    by_cases hm : m = 2 ^ 52
    · have habs' : |a| = 2 ^ 53 * 2 ^ (e - 1) := by
        rw [habs, hm, hunit]
        push_cast
        ring
      obtain ⟨k, hk⟩ | ⟨-, hlt'⟩ := hb.multiple_or_lt (e - 1)
      · have hj' : a = ((2 * j : ℤ) : ℚ) * 2 ^ (e - 1) := by
          rw [hj, hunit]
          push_cast
          ring
        rw [habs', mul_div_cancel_left₀ _ (by positivity), hk, hj']
        exact unit_le_abs_sub (hj' ▸ hk ▸ h)
      · rw [habs'] at hsub ⊢
        generalize (2 : ℚ) ^ (e - 1) = u at hsub hlt' hpos ⊢
        linarith
    · have hm' : (2 : ℚ) ^ 52 + 1 ≤ m := by
        have hlt : 2 ^ 52 < m := lt_of_le_of_ne (hc.normal.resolve_right he) (Ne.symm hm)
        exact_mod_cast hlt
      have hle : (2 ^ 52 + 1 : ℚ) * 2 ^ e ≤ |a| := by
        rw [habs]
        exact mul_le_mul_of_nonneg_right hm' (by positivity)
      refine (habs ▸ hc.unit_le).trans ?_
      linarith

/-- From a number that is as near to `a` as doubles next to `a`, rounding leads to `a` or to one
that is next to it. -/
theorem not_between_of_near {w r : ℚ} (ha : Representable a) (hw : |w - a| ≤ |a| / 2 ^ 53)
    (hb : Representable b) (hr : |r - w| ≤ |b - w|) : ¬ (a < b ∧ b < r) ∧ ¬ (r < b ∧ b < a) := by
  obtain ⟨hbelow, habove⟩ := abs_le.1 hw
  refine ⟨fun ⟨hab, hbr⟩ => ?_, fun ⟨hrb, hba⟩ => ?_⟩
  · have hgap := ha.gap hb hab.ne
    rw [abs_of_pos (sub_pos.2 hab)] at hgap
    rw [abs_of_nonneg (by linarith), abs_of_nonneg (by linarith)] at hr
    linarith
  · have hgap := ha.gap hb hba.ne'
    rw [abs_of_neg (sub_neg.2 hba)] at hgap
    rw [abs_of_nonpos (by linarith), abs_of_nonpos (by linarith)] at hr
    linarith

end

/-! ## Infinities -/

variable {x f f' p r z : Float}

theorem unpack_infinity (s : Sign) :
    (signed (s == .negative) infinity).toModel.unpack = .infinity s := by
  cases s <;> rfl

/-- A number other than zero has a sign. -/
theorem exists_onSide {q : ℚ} (hq : q ≠ 0) : ∃ s q', 0 < q' ∧ q = onSide s q' := by
  rcases lt_or_gt_of_ne hq with hlt | hgt
  · exact ⟨.negative, -q, neg_pos.2 hlt, (neg_neg q).symm⟩
  · exact ⟨.positive, q, hgt, rfl⟩

/-- An infinity divided by a finite double other than zero has the sign of the quotient. -/
theorem infinity_div {q : ℚ} (hq : q ≠ 0) (hf : isFinite f = true) (hne : rational f ≠ 0) :
    signed (q < 0) infinity / f = signed (q / rational f < 0) infinity := by
  obtain ⟨s, q, hpos, rfl⟩ := exists_onSide hq
  have hdiv : signed (s == .negative) infinity / f =
      Float.ofModel (Float.Model.pack (UnpackedFloat.div Format.binary64
        (signed (s == .negative) infinity).toModel.unpack f.toModel.unpack)) := rfl
  have hproper := proper_of_isFinite hf
  rw [rational_eq_exactly] at hne ⊢
  rw [decide_onSide_lt_zero s hpos, hdiv, unpack_infinity]
  generalize f.toModel.unpack = u at hproper hne ⊢
  cases hproper with
  | zero s' => exact absurd rfl hne
  | finite s' h =>
    have hm := h.pos
    rw [exactly_finite, ← onSide_div, decide_onSide_lt_zero _ (by positivity), UnpackedFloat.div]
    generalize s / s' = s''
    cases s'' <;> decide +kernel

/-- No finite double is above infinity, and none is below the negative one. -/
theorem not_lt_infinity (hz : isFinite z = true) :
    ¬ signed false infinity < z ∧ ¬ z < signed true infinity := by
  have hproper := proper_of_isFinite hz
  have habove : (signed false infinity).toModel.unpack = .infinity .positive :=
    unpack_infinity .positive
  have hbelow : (signed true infinity).toModel.unpack = .infinity .negative :=
    unpack_infinity .negative
  rw [lt_iff_compare, lt_iff_compare, habove, hbelow]
  generalize z.toModel.unpack = u at hproper ⊢
  cases hproper with
  | zero s => exact ⟨nofun, nofun⟩
  | finite s h => exact ⟨nofun, nofun⟩

/-! ## There and back -/

/-- Nothing is nearer to the number of a double than this double. -/
theorem Rounds.exact {v : ℚ} (h : Rounds v r) (hz : isFinite z = true) (hzv : rational z = v) :
    isFinite r = true ∧ rational r = v := by
  have hlt : |v| < beyond := hzv ▸ (representable_rational hz).abs_lt_beyond
  have hnear := h.nearest hlt z hz
  rw [hzv, sub_self, abs_zero] at hnear
  exact ⟨h.finite hlt, sub_eq_zero.1 (abs_nonpos_iff.1 hnear)⟩

/-- How a double comes back that was multiplied by another one and divided by it again. -/
structure Returned (x f r : Float) : Prop where
  /-- The product is rounded, and so is the quotient of it. -/
  rounded : ∃ p, Rounds (rational x * rational f) p ∧
    (isFinite p = true → Rounds (rational p / rational f) r)
  /-- It is the same number where the product is one of a double. -/
  exact : (∃ p, isFinite p = true ∧ rational p = rational x * rational f) →
    isFinite r = true ∧ rational r = rational x
  /-- It is the same or one next to it where no digit of the product is lost. -/
  adjacent : leastNormal ≤ |rational x * rational f| → |rational x * rational f| < beyond →
    ∀ z, isFinite z = true → ¬ (x < z ∧ z < r) ∧ ¬ (r < z ∧ z < x)
  /-- It is an infinity with its sign where the product is too large. -/
  infinite : beyond ≤ |rational x * rational f| → r = signed (rational x < 0) infinity

/-- A value that is multiplied by a factor and divided by an equal one comes back up to rounding. -/
theorem returned (hx : isFinite x = true) (hf : isFinite f = true) (hf' : isFinite f' = true)
    (hne : rational f ≠ 0) (heq : rational f' = rational f) : Returned x f (x * f / f') := by
  have hproduct := rounds_mul hx hf
  have hquotient : isFinite (x * f) = true →
      Rounds (rational (x * f) / rational f) (x * f / f') := fun hp =>
    heq ▸ rounds_div hp hf' (heq ▸ hne)
  refine ⟨⟨_, hproduct, hquotient⟩, fun ⟨p, hp, hpv⟩ => ?_, fun hleast hlt z hz => ?_,
    fun hle => ?_⟩
  · obtain ⟨hfinite, hrational⟩ := hproduct.exact hp hpv
    refine (hquotient hfinite).exact hx ?_ |>.imp_right fun h => h.trans ?_
    · rw [hrational, mul_div_cancel_right₀ _ hne]
    · rw [hrational, mul_div_cancel_right₀ _ hne]
  · obtain ⟨w, hw⟩ : ∃ w, w = rational (x * f) / rational f := ⟨_, rfl⟩
    have hrounds := hw ▸ hquotient (hproduct.finite hlt)
    have hoff : |w - rational x| ≤ |rational x| / 2 ^ 53 := by
      have hclose := hproduct.close hlt hleast
      have hscaled : rational (x * f) - rational x * rational f =
          (w - rational x) * rational f := by
        rw [sub_mul, hw, div_mul_cancel₀ _ hne]
      rw [hscaled, abs_mul, abs_mul, mul_div_right_comm] at hclose
      exact le_of_mul_le_mul_right hclose (abs_pos.2 hne)
    have hx' := representable_rational hx
    have hz' := representable_rational hz
    rcases lt_or_ge |w| beyond with hfar | hfar
    · have hr := hrounds.finite hfar
      rw [lt_iff_rational_lt hx hz, lt_iff_rational_lt hz hr, lt_iff_rational_lt hr hz,
        lt_iff_rational_lt hz hx]
      exact not_between_of_near hx' hoff hz' (hrounds.nearest hfar z hz)
    · -- the quotient is beyond all doubles, so none is on the other side of the double
      obtain ⟨hbelow, habove⟩ := abs_le.1 hoff
      obtain ⟨hleast', hmost'⟩ := abs_lt.1 hz'.abs_lt_beyond
      rw [hrounds.infinite hfar, lt_iff_rational_lt hx hz, lt_iff_rational_lt hz hx]
      rcases lt_or_ge w 0 with hw' | hw'
      · rw [decide_eq_true hw']
        refine ⟨fun h => (not_lt_infinity hz).2 h.2, fun h => ?_⟩
        have hgap := hx'.gap hz' h.2.ne'
        rw [abs_of_neg (sub_neg.2 h.2)] at hgap
        rw [abs_of_neg hw'] at hfar
        linarith
      · rw [decide_eq_false hw'.not_gt]
        refine ⟨fun h => ?_, fun h => (not_lt_infinity hz).1 h.1⟩
        have hgap := hx'.gap hz' h.1.ne
        rw [abs_of_pos (sub_pos.2 h.1)] at hgap
        rw [abs_of_nonneg hw'] at hfar
        linarith
  · rw [hproduct.infinite hle]
    have hne' : rational x * rational f ≠ 0 := fun hzero => by
      rw [hzero, abs_zero] at hle
      exact absurd hle (not_le.2 beyond_pos)
    rw [infinity_div hne' hf' (heq ▸ hne), heq, mul_div_cancel_right₀ _ hne]

end Metrology.Numeral
