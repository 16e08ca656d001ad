import Metrology.Session.Basic
import Metrology.Catalog.Temperature

/-!
# The standing registry

A session begins with the standard base dimensions and without registries. The registry that stands
in where none is named is made on first use; the settings of that moment decide whether it begins
with the standard units and the temperature conversions.
-/

namespace Metrology

namespace Session

/-- A session at its beginning. -/
def initial (facilities : Facilities) (meters : Bool) (environment : Environment) : Session where
  facilities
  basis := Basis.standard
  meters :=
    { enabled := meters, events := ∅, units := ∅, functions := ∅,
      dimensions := Basis.standard.size }
  environment := environment
  nextSerial := Catalog.allUnits.length + 1

/-- Register a catalog of units. -/
def registerCatalog (id : Nat) (c : Catalog) : SessionM Unit :=
  registerAll id c.units

/-- Register the conversion functions between the temperature scales. -/
def registerTemperatureConversions (id : Nat) : SessionM Unit :=
  Catalog.temperatureConversions.forM (addConversion id)

/-- Register every standard catalog and the temperature conversions. -/
def registerStandard (id : Nat) : SessionM Unit := do
  Catalog.all.forM (registerCatalog id)
  registerTemperatureConversions id

/-- The number of the registry that stands in where none is named, made on first use. -/
def standingRegistry : SessionM Nat := do
  match (← get).standing with
  | some id => pure id
  | none =>
    let id ← newRegistry "default"
    let settings ← currentSettings
    if settings.standardUnits then registerStandard id
    useRegistry id
    pure id

/-- The number of a registry, or of the one that stands in. -/
def registryOr : Option Nat → SessionM Nat
  | some id => pure id
  | none => standingRegistry

end Session

end Metrology
