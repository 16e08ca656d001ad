import Metrology.Measure.Basic

/-!
# Which units are the same

Units are one and the same when they have the same serial number. Units that come from one run are
*coherent*: those that are one and the same agree in everything else as well.
-/

namespace Metrology.Measure

/-- Units are the same where their serial numbers are. -/
theorem same_iff {a b : Measure} : a.same b = true ↔ a.serial = b.serial := by
  simp [same]

theorem same_refl (a : Measure) : a.same a = true :=
  same_iff.2 rfl

/-- Units are compatible where they have one dimension. -/
theorem compatible_iff {a b : Measure} :
    a.compatible b.toDenomination = true ↔ a.dimension = b.dimension := by
  simp [Denomination.compatible]

/-- Units that are one and the same are called the same and worth the same. -/
def Coherent (ms : List Measure) : Prop :=
  ∀ a ∈ ms, ∀ b ∈ ms, a.same b = true → a = b

/-- Fewer units are as coherent. -/
theorem Coherent.mono {ms ns : List Measure} (h : Coherent ns) (hsub : ms ⊆ ns) : Coherent ms :=
  fun a ha b hb => h a (hsub ha) b (hsub hb)

end Metrology.Measure
