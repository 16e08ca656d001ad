import Metrology.Quantity.Basic
import Metrology.Fault

/-!
# Conversion functions

A conversion function leads from one dimension to another. What it does with a quantity is a
routine: it answers with a value in a unit, fails, or first has a quantity converted by the registry
that it was called from and goes on with the result.
-/

namespace Metrology

/-- What a conversion function does with a quantity. -/
inductive Routine where
  /-- Answer with a value in a unit. -/
  | answer (value : Float) (unit : UnitRef)
  /-- Answer with a quantity that exists. -/
  | give (q : Quantity)
  | fail (fault : Fault)
  /-- Have a quantity converted, and go on with the result. -/
  | convert (q : Quantity) (target : Measure) (next : Quantity → Routine)

/-- A conversion function between the dimensions of two units. -/
structure Conversion where
  /-- The name under which calls are noted. -/
  label : Option String
  /-- The unit in which the function takes its argument. -/
  source : Measure
  /-- The unit in which the function answers. -/
  target : Measure
  apply : Quantity → Routine

/-- The dimensions between which a conversion leads. -/
def Conversion.route (c : Conversion) : Dimension × Dimension :=
  (c.source.dimension, c.target.dimension)

end Metrology
