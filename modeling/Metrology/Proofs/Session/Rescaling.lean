import Metrology.Proofs.Numeral.Return
import Metrology.Proofs.Session.Comparison
import Metrology.Session.Standard

/-!
# Converting to a unit worth the same

In its own unit a quantity is converted by doing nothing. To another unit that is worth the same it
is converted like to any unit of its dimension: the value is multiplied by the factor and divided by
it again. What comes back differs from the value by what the two roundings do (`Returned`), which is
nothing where the product is a double itself. So the two ways do not always agree: the product may
need more digits than a double has, and it may exceed the largest one.
-/

namespace Metrology

open Numeral

/-- Rescaled to a unit worth the same, a value is multiplied by the factor and divided by it. -/
theorem Quantity.Regular.returned_rescale {a : Quantity} {v : Denomination} (ha : a.Regular)
    (h : v.agrees a.unit = true) :
    Returned a.value a.unit.factor (a.unit.rescale v a.value) := by
  have hfactor : (v.factor == a.unit.factor) = true := (Bool.and_eq_true_iff.1 h).1
  have hfinite := isFinite_of_beq ha.factor hfactor
  have heq := (beq_iff_rational_eq hfinite ha.factor).1 hfactor
  rw [Denomination.rescale_eq_div hfinite (heq ▸ ha.nonzero)]
  exact returned ha.value ha.factor hfinite ha.nonzero heq

namespace Session

/-- A quantity is converted to its own unit by doing nothing. To another unit worth the same it is
converted, always and without calling a function, by multiplying its value by the factor and
dividing it by the factor again. -/
theorem convert_of_agrees (id : Nat) (s : Session) (a : Quantity) (v : Measure)
    (ha : a.Regular) (hv : v.agrees a.unit = true) (hother : a.unit.same v = false) :
    (∃ t, (convert id a a.unit).run s = .ok a t ∧ t.journal = s.journal) ∧
    ∃ b t, (convert id a v).run s = .ok b t ∧ b.unit = v ∧ t.journal = s.journal ∧
      Returned a.value a.unit.factor b.value := by
  constructor
  · obtain ⟨t, ht, -, hjournal⟩ := run_convert_of_compatible id s
      (Measure.compatible_iff.2 (rfl : a.unit.dimension = a.unit.dimension))
    rw [Quantity.expressed, if_pos a.unit.same_refl] at ht
    exact ⟨t, ht, hjournal⟩
  · have hdimension := Measure.compatible_iff.1 (Bool.and_eq_true_iff.1 hv).2
    obtain ⟨t, ht, -, hjournal⟩ := run_convert_of_compatible id s
      (Measure.compatible_iff.2 hdimension.symm)
    rw [Quantity.expressed, if_neg (Bool.eq_false_iff.1 hother)] at ht
    exact ⟨_, t, ht, rfl, hjournal, ha.returned_rescale hv⟩

/-- The unit once more, as another one. -/
def again (v : Measure) : Measure := { v with serial := v.serial + 100 }

/-- Seven feet, in another foot: the product with the factor is not a double. -/
theorem convert_of_agrees_foot :
    (⟨7.0, Catalog.foot, 100⟩ : Quantity).Regular ∧
    (again Catalog.foot).agrees Catalog.foot = true ∧
    Catalog.foot.same (again Catalog.foot) = false ∧
    (∃ t, (convert 0 ⟨7.0, Catalog.foot, 100⟩ Catalog.foot).run (start true []) =
      .ok ⟨7.0, Catalog.foot, 100⟩ t ∧ t.journal = (start true []).journal) ∧
    ∃ b t, (convert 0 ⟨7.0, Catalog.foot, 100⟩ (again Catalog.foot)).run (start true []) =
        .ok b t ∧ b.unit = again Catalog.foot ∧ t.journal = (start true []).journal ∧
      Returned 7.0 Catalog.foot.factor b.value := by
  have hregular : (⟨7.0, Catalog.foot, 100⟩ : Quantity).Regular :=
    ⟨by decide +kernel, by decide +kernel, by decide +kernel⟩
  have hagrees : (again Catalog.foot).agrees Catalog.foot = true := by decide +kernel
  exact ⟨hregular, hagrees, rfl, convert_of_agrees 0 (start true []) ⟨7.0, Catalog.foot, 100⟩
    (again Catalog.foot) hregular hagrees rfl⟩

/-- The value does not always come back: `10 ^ 308` kilometers are infinitely many of another
kilometer, since no double is so large as the product. -/
theorem not_forall_convert_of_agrees_eq : ¬ ∀ (id : Nat) (s : Session) (a : Quantity) (v : Measure),
    a.Regular → v.agrees a.unit = true → a.unit.same v = false →
    ∃ b t, (convert id a v).run s = .ok b t ∧ (b.value == a.value) = true := by
  intro h
  obtain ⟨b, t, hb, heq⟩ := h 0 (start true []) ⟨1e308, Catalog.kilometer, 100⟩
    (again Catalog.kilometer) ⟨by decide +kernel, by decide +kernel, by decide +kernel⟩
    (by decide +kernel) rfl
  obtain ⟨t', ht', -⟩ := run_convert_of_compatible (q := ⟨1e308, Catalog.kilometer, 100⟩)
    (v := again Catalog.kilometer) 0 (start true []) (by decide +kernel)
  rw [← (EStateM.Result.ok.inj (ht'.symm.trans hb)).1] at heq
  exact absurd heq (by decide +kernel)

end Session

end Metrology
