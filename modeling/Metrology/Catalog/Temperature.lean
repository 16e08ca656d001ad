import Metrology.Catalog.Units
import Metrology.Registry.Conversion

/-!
# Conversion between temperature scales

Celsius and Fahrenheit count from other points than Kelvin, so no factor leads from one scale to
another. The functions below connect them; between Fahrenheit and Kelvin they go through Celsius by
the registry that called them.
-/

namespace Metrology.Catalog

/-- The temperature of absolute zero below that of the Celsius scale. -/
def absoluteZeroCelsius : Float := 273.15

/-- A conversion function that computes the value in the target unit. -/
def direct (source target : Measure) (f : Float → Float) : Conversion where
  label := none
  source := source
  target := target
  apply q := .answer (f q.value) (.unit target)

/-- A conversion function that goes through a third unit. -/
def through (middle source target : Measure) : Conversion where
  label := none
  source := source
  target := target
  apply q := .convert q middle fun r => .convert r target .give

/-- The conversion functions between the temperature scales, in the order of registration. -/
def temperatureConversions : List Conversion :=
  [direct degreeCelsius degreeFahrenheit fun x => x * 9.0 / 5.0 + 32.0,
   direct degreeFahrenheit degreeCelsius fun x => (x - 32.0) / 9.0 * 5.0,
   direct degreeCelsius kelvin fun x => x + absoluteZeroCelsius,
   direct kelvin degreeCelsius fun x => x - absoluteZeroCelsius,
   through degreeCelsius degreeFahrenheit kelvin,
   through degreeCelsius kelvin degreeFahrenheit]

end Metrology.Catalog
