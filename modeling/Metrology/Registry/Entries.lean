import Metrology.Registry.Basic

/-!
# What a registry holds

Entries that describe the units and the conversion functions of a registry, and a summary with the
counts. They are copies: a registry does not change with them.
-/

namespace Metrology

/-- A description of a registered unit. -/
structure UnitEntry where
  name : String
  symbol : String
  factor : Float
  /-- The nonzero exponents by base dimension. -/
  dimension : List (String × Int) := []
  dimensionText : String := ""
  named : Bool := true

/-- A description of a registered conversion function. -/
structure ConversionEntry where
  sourceName : String
  sourceSymbol : String
  targetName : String
  targetSymbol : String
  sourceDimension : String := ""
  targetDimension : String := ""

/-- The counts of a registry. -/
structure RegistrySummary where
  units : Int := 0
  named : Int := 0
  dimensions : Int := 0
  conversions : Int := 0
  resolvers : Int := 0
  symbols : Int := 0
  /-- Units by the text of their dimension. -/
  unitsByDimension : List (String × Int) := []

/-- The entry of a unit. -/
def UnitEntry.ofMeasure (b : Basis) (m : Measure) : UnitEntry where
  name := m.name
  symbol := m.symbol
  factor := m.factor
  dimension := b.factors m.dimension
  dimensionText := b.describe m.dimension
  named := m.named

/-- The entry of a conversion function. -/
def ConversionEntry.ofConversion (b : Basis) (c : Conversion) : ConversionEntry where
  sourceName := c.source.name
  sourceSymbol := c.source.symbol
  targetName := c.target.name
  targetSymbol := c.target.symbol
  sourceDimension := b.describe c.source.dimension
  targetDimension := b.describe c.target.dimension

namespace Registry

/-- The entries of the registered units, or of those of one dimension. -/
def unitEntries (r : Registry) (b : Basis) (d : Option Dimension) : List UnitEntry :=
  (r.unitsOf d).map (UnitEntry.ofMeasure b)

/-- The entries of the conversion functions, in the order of their dimensions' registration. -/
def conversionEntries (r : Registry) (b : Basis) : List ConversionEntry :=
  r.conversions.values.map (ConversionEntry.ofConversion b)

/-- The counts. -/
def summary (r : Registry) (b : Basis) : RegistrySummary where
  units := r.units.length
  named := (r.units.filter (·.named)).length
  dimensions := r.byDimension.size
  conversions := r.conversions.size
  resolvers := r.resolvers.length
  symbols := r.bySymbol.size
  unitsByDimension :=
    (Table.ofList (r.byDimension.entries.map fun (d, ms) =>
      (b.describe d, (ms.length : Int)))).entries

end Registry

end Metrology
