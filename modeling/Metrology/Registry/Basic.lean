import Metrology.Registry.Conversion
import Metrology.Table

/-!
# Registries

A registry, also called a unit manager, holds units in the order in which they were registered, with
tables by name, by symbol and by dimension, conversion functions by the dimensions between which
they lead, and resolvers for names that it does not know. A name or symbol registered again stands
for the later unit; the table by dimension keeps every unit. The serial numbers of the units are
kept beside them and agree with them (`Registry.serials_eq`).
-/

namespace Metrology

/-- What a resolver answers to a name. -/
inductive Reply where
  /-- The resolver does not know the name. -/
  | pass
  /-- A unit that exists. -/
  | unit (m : Measure)
  /-- A unit made for this name. -/
  | fresh (d : Denomination)

/-- A source of units for names that a registry does not know. What a resolver answers to a name
depends on the name only: it is taken to be pure, so it answers alike whenever it is asked, neither
fails nor asks the registry that it is a source of, and registers nothing by itself. -/
structure Resolver where
  id : String
  reply : String → Reply

/-- A registry of units and conversion functions. -/
structure Registry where
  name : String
  /-- The units in the order of their registration. -/
  units : List Measure := []
  /-- The serial numbers of the units. -/
  serials : List Nat := []
  byName : Table String Measure := ∅
  bySymbol : Table String Measure := ∅
  byDimension : Table Dimension (List Measure) := ∅
  conversions : Table (Dimension × Dimension) Conversion := ∅
  resolvers : List Resolver := []
  serials_eq : serials = units.map (·.serial) := by rfl

namespace Registry

/-- A registry with nothing in it. -/
def empty (name : String) : Registry where
  name := name

/-- Whether this very unit is registered. -/
def isRegistered (r : Registry) (m : Measure) : Bool :=
  r.serials.contains m.serial

/-- Register a unit; a unit that is registered stays as it is. -/
def register (r : Registry) (m : Measure) : Registry :=
  if r.isRegistered m then r
  else { r with
    units := r.units ++ [m]
    serials := r.serials ++ [m.serial]
    serials_eq := by simp [r.serials_eq]
    byName := r.byName.put m.name m
    bySymbol := r.bySymbol.put m.symbol m
    byDimension := r.byDimension.update m.dimension [] (· ++ [m]) }

/-- Register a conversion function for its two dimensions, in the place of an earlier one. -/
def addConversion (r : Registry) (c : Conversion) : Registry :=
  { r with conversions := r.conversions.put c.route c }

/-- Add a resolver behind the others. -/
def addResolver (r : Registry) (s : Resolver) : Registry :=
  { r with resolvers := r.resolvers ++ [s] }

/-- Remove the first occurrence of a resolver. -/
def removeResolver (r : Registry) (id : String) : Registry :=
  { r with resolvers := r.resolvers.eraseP fun s => s.id = id }

/-- The registered units, or those of one dimension. -/
def unitsOf (r : Registry) : Option Dimension → List Measure
  | none => r.units
  | some d => (r.byDimension.get? d).getD []

/-- The dimensions of the registered units, in the order of their first unit. -/
def dimensions (r : Registry) : List Dimension :=
  r.byDimension.keys

/-- The named unit for a unit: itself if it is named, otherwise the first registered unit with its
dimension and factor. -/
def resolve? (r : Registry) (m : Measure) : Option Measure :=
  if m.named then some m
  else (r.unitsOf (some m.dimension)).find? fun u => u.factor == m.factor

/-- The conversion function between the dimensions of two units. -/
def conversion? (r : Registry) (source target : Measure) : Option Conversion :=
  r.conversions.get? (source.dimension, target.dimension)

/-- Whether a quantity in one unit can be converted to another. -/
def isConvertible (r : Registry) (source target : Measure) : Bool :=
  source.compatible target.toDenomination || (r.conversion? source target).isSome

end Registry

end Metrology
