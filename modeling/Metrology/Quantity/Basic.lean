import Metrology.Measure.Basic

/-!
# Quantities

A quantity, also called an amount, is a value in a unit, under a serial number of its own: an
operation may answer with the very quantity that it was given.
-/

namespace Metrology

/-- A value in a unit of measure. -/
structure Quantity where
  value : Float
  unit : Measure
  serial : Nat

/-- Whether two quantities are one and the same. -/
def Quantity.same (a b : Quantity) : Bool :=
  a.serial == b.serial

/-- What may stand where a unit is asked for: a unit, its name, or (by mistake) anything else, of
which the kind is told. -/
inductive UnitRef where
  | unit (m : Measure)
  | name (text : String)
  | other (kind : String)

end Metrology
