import Metrology.Session.Basic
import Metrology.Text.Quoted

/-!
# Descriptions

Dimensions, units and quantities as they are shown to someone who inspects a value. What is shown
can be read back: a dimension with an exponent that has more digits than a numeral can have is not
described.
-/

namespace Metrology

open Text Numeral

/-- A description of a dimension. -/
def Basis.describeDimension (b : Basis) (d : Dimension) : String :=
  s!"UnitType({quoted (b.describe d)})"

/-- A description of a unit. -/
def Basis.describeUnit (b : Basis) (m : Denomination) : String :=
  let dimension := b.describe m.dimension
  s!"Unit(name={quoted m.name}, symbol={quoted m.symbol}, " ++
    s!"factor={text m.factor}, unit_type={quoted dimension})"

/-- A description of a quantity. -/
def Quantity.description (q : Quantity) : String :=
  s!"Amount({text q.value}, {quoted q.unit.name})"

/-- Whether every exponent can be read back from its numeral. -/
def Dimension.isWritable (d : Dimension) : Bool :=
  d.exponents.all Text.isWritable

/-- What the basis of a session makes of dimensions, if all of them can be described. -/
def Session.describing {α : Type} (ds : List Dimension) (f : Basis → α) : SessionM α := do
  if ds.all Dimension.isWritable then pure (f (← get).basis) else throw .badValue

end Metrology
