import Mathlib.Order.WithBot
import Metrology.Proofs.Numeral.Rounding

/-!
# The order of doubles

Doubles that are numbers are in the order of the rational numbers, with one infinity below all of
them and one above (`level`). So the comparisons of doubles are those of a linear order, as long as
nothing that is not a number takes part. `MonotoneRounding` says of a number of places that rounding
to it always has a result and never turns two doubles around; then doubles can be ordered by what
they are rounded to.
-/

namespace Metrology.Numeral

open Float.Model Float.Model.UnpackedFloat

/-- The rational numbers with an infinity at either end. -/
abbrev Level := WithBot (WithTop ℚ)

/-- Where an unpacked double stands; what is no number is taken for zero. -/
def levelOf : UnpackedFloat → Level
  | .infinity .negative => ⊥
  | .infinity .positive => ((⊤ : WithTop ℚ) : Level)
  | u => ((exactly u : WithTop ℚ) : Level)

/-- Where a double stands; what is no number is taken for zero. -/
def level (x : Float) : Level := levelOf x.toModel.unpack

/-- A number that a double can hold stands at its own value. -/
theorem levelOf_proper {u : UnpackedFloat} (h : Proper u) :
    levelOf u = ((exactly u : WithTop ℚ) : Level) := by
  cases h <;> rfl

/-- A finite double stands at its value. -/
theorem level_of_isFinite {x : Float} (h : isFinite x = true) :
    level x = ((rational x : WithTop ℚ) : Level) := by
  rw [level, levelOf_proper (proper_of_isFinite h), rational_eq_exactly]

/-- An unpacked double that is a number or an infinity. -/
inductive Numbered : UnpackedFloat → Prop
  | proper {u : UnpackedFloat} (h : Proper u) : Numbered u
  | infinity (s : Sign) : Numbered (.infinity s)

theorem numbered_of_isNaN {x : Float} (h : x.isNaN = false) : Numbered x.toModel.unpack := by
  have hnumber : x.toModel.unpack.isNaN = false := h
  cases hx : x.toModel.unpack with
  | notANumber =>
    rw [hx] at hnumber
    cases hnumber
  | infinity s => exact .infinity s
  | zero s => exact .proper (.zero s)
  | finite s m e hm => exact .proper (.finite s (canonical_of_unpack hx))

theorem strictMono_finite : StrictMono fun q : ℚ => ((q : WithTop ℚ) : Level) :=
  WithBot.coe_strictMono.comp WithTop.coe_strictMono

/-- Numbers and infinities are compared by where they stand. -/
theorem compare_eq_cmp_level {u v : UnpackedFloat} (hu : Numbered u) (hv : Numbered v) :
    u.compare v = some (cmp (levelOf u) (levelOf v)) := by
  have hlt : ∀ {a b : Level}, a < b → some Ordering.lt = some (cmp a b) := fun h =>
    congrArg some ((cmp_eq_lt_iff _ _).2 h).symm
  have hgt : ∀ {a b : Level}, b < a → some Ordering.gt = some (cmp a b) := fun h =>
    congrArg some ((cmp_eq_gt_iff _ _).2 h).symm
  have heq : ∀ a : Level, some Ordering.eq = some (cmp a a) := fun a =>
    congrArg some ((cmp_eq_eq_iff _ _).2 rfl).symm
  have htop (q : ℚ) : ((q : WithTop ℚ) : Level) < ((⊤ : WithTop ℚ) : Level) :=
    WithBot.coe_lt_coe.2 (WithTop.coe_lt_top q)
  have hbot (q : WithTop ℚ) : (⊥ : Level) < (q : Level) := WithBot.bot_lt_coe q
  -- the ends of the order stand above and below all finite numbers
  cases hu with
  | proper hu =>
    cases hv with
    | proper hv =>
      rw [compare_eq_cmp hu hv, levelOf_proper hu, levelOf_proper hv,
        strictMono_finite.cmp_map_eq]
    | infinity s =>
      rw [levelOf_proper hu]
      cases s with
      | positive => cases hu <;> exact hlt (htop _)
      | negative => cases hu <;> exact hgt (hbot _)
  | infinity s =>
    cases hv with
    | proper hv =>
      rw [levelOf_proper hv]
      cases s with
      | positive => cases hv <;> exact hgt (htop _)
      | negative => cases hv <;> exact hlt (hbot _)
    | infinity s' =>
      cases s with
      | positive =>
        cases s' with
        | positive => exact heq _
        | negative => exact hgt (hbot _)
      | negative =>
        cases s' with
        | positive => exact hlt (hbot _)
        | negative => exact heq _

/-- A comparison in a linear order says whether the first is at most the second. -/
theorem isLE_cmp {α : Type} [LinearOrder α] (a b : α) : (cmp a b).isLE = true ↔ a ≤ b := by
  rw [Ordering.isLE_iff_ne_gt, ← not_lt, ← cmp_eq_gt_iff]

variable {x y : Float}

/-- Doubles that are numbers compare as they stand. -/
theorem compare_unpack (hx : x.isNaN = false) (hy : y.isNaN = false) :
    x.toModel.unpack.compare y.toModel.unpack = some (cmp (level x) (level y)) :=
  compare_eq_cmp_level (numbered_of_isNaN hx) (numbered_of_isNaN hy)

/-- Less is what stands below. -/
theorem lt_iff_level_lt (hx : x.isNaN = false) (hy : y.isNaN = false) :
    x < y ↔ level x < level y := by
  rw [lt_iff_compare, compare_unpack hx hy, Option.some.injEq, cmp_eq_lt_iff]

/-- Equal is what stands at the same level, so that both zeros are equal. -/
theorem beq_iff_level_eq (hx : x.isNaN = false) (hy : y.isNaN = false) :
    (x == y) = true ↔ level x = level y := by
  rw [beq_iff_compare, compare_unpack hx hy, Option.some.injEq, cmp_eq_eq_iff]

/-- At most is what compares as less or equal. -/
theorem le_iff_compare :
    x ≤ y ↔ (x.toModel.unpack.compare y.toModel.unpack).any Ordering.isLE = true := by
  show decide (_ = true) = true ↔ _
  rw [decide_eq_true_iff]
  rfl

/-- At most is what does not stand above. -/
theorem le_iff_level_le (hx : x.isNaN = false) (hy : y.isNaN = false) :
    x ≤ y ↔ level x ≤ level y := by
  rw [le_iff_compare, compare_unpack hx hy, Option.any_some, isLE_cmp]

/-- Only numbers and infinities are in order with something. -/
theorem isNaN_of_le (h : x ≤ y) : x.isNaN = false ∧ y.isNaN = false := by
  rw [le_iff_compare] at h
  -- what is no number compares with nothing
  have hx : ∀ v : UnpackedFloat, UnpackedFloat.compare .notANumber v = none := fun _ => rfl
  have hy : ∀ u : UnpackedFloat, u.compare .notANumber = none := fun u => by cases u <;> rfl
  show x.toModel.unpack.isNaN = false ∧ y.toModel.unpack.isNaN = false
  generalize x.toModel.unpack = u, y.toModel.unpack = v at h
  constructor
  · cases u with
    | notANumber =>
      rw [hx] at h
      cases h
    | _ => rfl
  · cases v with
    | notANumber =>
      rw [hy] at h
      cases h
    | _ => rfl

/-! ## Order by rounding -/

/-- Rounding to a number of places has a result for every number and infinity, and it never turns
two of them around. -/
structure MonotoneRounding (places : Int) : Prop where
  defined : ∀ x : Float, x.isNaN = false → ∃ y, roundTo? x places = some y
  mono : ∀ x y x' y' : Float, x ≤ y → roundTo? x places = some x' → roundTo? y places = some y' →
    x' ≤ y'

/-- Where the double stands that a double is rounded to. -/
def roundedLevel (places : Int) (x : Float) : Level :=
  level ((roundTo? x places).getD x)

namespace MonotoneRounding

variable {places : Int} (h : MonotoneRounding places)
include h

/-- What is rounded is a number or an infinity again. -/
theorem exists_roundTo? (hx : x.isNaN = false) :
    ∃ x', roundTo? x places = some x' ∧ x'.isNaN = false ∧ roundedLevel places x = level x' := by
  obtain ⟨x', hx'⟩ := h.defined x hx
  have hle : x ≤ x := (le_iff_level_le hx hx).2 le_rfl
  exact ⟨x', hx', (isNaN_of_le (h.mono x x x' x' hle hx' hx')).1, by rw [roundedLevel, hx']; rfl⟩

/-- Rounding does not change the order. -/
theorem roundedLevel_le (hx : x.isNaN = false) (hy : y.isNaN = false)
    (hle : level x ≤ level y) : roundedLevel places x ≤ roundedLevel places y := by
  obtain ⟨x', hx', hnumber, hlevel⟩ := h.exists_roundTo? hx
  obtain ⟨y', hy', hnumber', hlevel'⟩ := h.exists_roundTo? hy
  rw [hlevel, hlevel', ← le_iff_level_le hnumber hnumber']
  exact h.mono x y x' y' ((le_iff_level_le hx hy).2 hle) hx' hy'

/-- Two numbers agree to some places where they are rounded to the same level. -/
theorem agree_iff (hx : x.isNaN = false) (hy : y.isNaN = false) :
    agree places x y = true ↔ roundedLevel places x = roundedLevel places y := by
  obtain ⟨x', hx', hnumber, hlevel⟩ := h.exists_roundTo? hx
  obtain ⟨y', hy', hnumber', hlevel'⟩ := h.exists_roundTo? hy
  rw [agree_of_roundTo? hx' hy', hlevel, hlevel', beq_iff_level_eq hnumber hnumber']

/-- Doubles that do not agree are in the order of what they are rounded to. -/
theorem order_eq_cmp (hx : x.isNaN = false) (hy : y.isNaN = false) :
    (if agree places x y then Ordering.eq else if x < y then .lt else .gt) =
      cmp (roundedLevel places x) (roundedLevel places y) := by
  by_cases hagree : agree places x y = true
  · rw [if_pos hagree]
    exact ((cmp_eq_eq_iff _ _).2 ((h.agree_iff hx hy).1 hagree)).symm
  · have hne := mt (h.agree_iff hx hy).2 hagree
    rw [if_neg hagree]
    by_cases hlt : x < y
    · have hle := h.roundedLevel_le hx hy ((lt_iff_level_lt hx hy).1 hlt).le
      rw [if_pos hlt]
      exact ((cmp_eq_lt_iff _ _).2 (lt_of_le_of_ne hle hne)).symm
    · have hle := h.roundedLevel_le hy hx (not_lt.1 (mt (lt_iff_level_lt hx hy).2 hlt))
      rw [if_neg hlt]
      exact ((cmp_eq_gt_iff _ _).2 (lt_of_le_of_ne hle (Ne.symm hne))).symm

end MonotoneRounding

end Metrology.Numeral
