import Metrology.Measure.Basic

/-!
# The standard units

The units that the standing registry begins with, in catalogs by the kind of quantity. Every unit
has a serial number of its own, in the order of the catalogs; the unit of pure numbers has the
number 0. The temperature scales start at different points and so have dimensions of their own.
-/

namespace Metrology

/-- The base dimensions of the standard units. -/
def Basis.standard : Basis :=
  .ofNames ["metre", "kilogram", "second", "ampere", "kelvin", "mole", "candela",
    "celsius temperature", "fahrenheit temperature"]

/-- A named collection of units of one kind. -/
structure Catalog where
  name : String
  units : List Measure

namespace Catalog

/-! ## Dimensions -/

def length : Dimension := .base 0
def mass : Dimension := .base 1
def time : Dimension := .base 2
def electricCurrent : Dimension := .base 3
def thermodynamicTemperature : Dimension := .base 4
def amountOfSubstance : Dimension := .base 5
def luminousIntensity : Dimension := .base 6
def celsiusTemperature : Dimension := .base 7
def fahrenheitTemperature : Dimension := .base 8


/-! ## Lengths -/

def meter : Measure := ⟨.rename "meter" "m" (.coherent length), 1⟩
def picometer : Measure := ⟨.rename "picometer" "pm" (.times 0.000000000001 meter), 2⟩
def nanometer : Measure := ⟨.rename "nanometer" "nm" (.times 0.000000001 meter), 3⟩
def micrometer : Measure := ⟨.rename "micrometer" "µm" (.times 0.000001 meter), 4⟩
def millimeter : Measure := ⟨.rename "millimeter" "mm" (.times 0.001 meter), 5⟩
def centimeter : Measure := ⟨.rename "centimeter" "cm" (.times 0.01 meter), 6⟩
def decimeter : Measure := ⟨.rename "decimeter" "dm" (.times 0.1 meter), 7⟩
def decameter : Measure := ⟨.rename "decameter" "Dm" (.times 10.0 meter), 8⟩
def hectometer : Measure := ⟨.rename "hectometer" "Hm" (.times 100.0 meter), 9⟩
def kilometer : Measure := ⟨.rename "kilometer" "km" (.times 1000.0 meter), 10⟩
def inch : Measure := ⟨.rename "inch" "in" (.times 0.0254 meter), 11⟩
def foot : Measure := ⟨.rename "foot" "ft" (.times 12.0 inch), 12⟩
def yard : Measure := ⟨.rename "yard" "yd" (.times 36.0 inch), 13⟩
def mile : Measure := ⟨.rename "mile" "mi" (.times 5280.0 foot), 14⟩
def nauticalMile : Measure := ⟨.rename "nautical mile" "nmi" (.times 1852.0 meter), 15⟩
def lightYear : Measure := ⟨.rename "light-year" "ly" (.times 9460730472580800.0 meter), 16⟩

/-- The metric, imperial and nautical lengths. -/
def lengthUnits : Catalog where
  name := "length"
  units :=
    [meter, picometer, nanometer, micrometer, millimeter, centimeter, decimeter, decameter,
     hectometer, kilometer, inch, foot, yard, mile, nauticalMile, lightYear]


/-! ## Masses -/

def kilogram : Measure := ⟨.rename "kilogram" "Kg" (.coherent mass), 17⟩
def gram : Measure := ⟨.rename "gram" "g" (.times 0.001 kilogram), 18⟩
def milligram : Measure := ⟨.rename "milligram" "mg" (.times 0.001 gram), 19⟩
def ton : Measure := ⟨.rename "ton" "ton" (.times 1000.0 kilogram), 20⟩

/-- The masses. -/
def massUnits : Catalog where
  name := "mass"
  units :=
    [kilogram, gram, milligram, ton]


/-! ## Times -/

def second : Measure := ⟨.rename "second" "s" (.coherent time), 21⟩
def microsecond : Measure := ⟨.rename "microsecond" "μs" (.times 0.000001 second), 22⟩
def millisecond : Measure := ⟨.rename "millisecond" "ms" (.times 0.001 second), 23⟩
def minute : Measure := ⟨.rename "minute" "min" (.times 60.0 second), 24⟩
def hour : Measure := ⟨.rename "hour" "h" (.times 3600.0 second), 25⟩
def day : Measure := ⟨.rename "day" "d" (.times 24.0 hour), 26⟩

/-- The times. -/
def timeUnits : Catalog where
  name := "time"
  units :=
    [second, microsecond, millisecond, minute, hour, day]


/-! ## Surfaces -/

def meter2 : Measure := ⟨.rename "meter²" "m²" (.pow meter 2), 27⟩
def are : Measure := ⟨.rename "are" "are" (.times 100.0 meter2), 28⟩
def hectare : Measure := ⟨.rename "hectare" "ha" (.times 10000.0 meter2), 29⟩
def kilometer2 : Measure := ⟨.rename "kilometer²" "Km²" (.pow kilometer 2), 30⟩

/-- The surfaces. -/
def surfaceUnits : Catalog where
  name := "surface"
  units :=
    [meter2, are, hectare, kilometer2]


/-! ## Volumes -/

def liter : Measure := ⟨.rename "liter" "L" (.pow decimeter 3), 31⟩
def milliliter : Measure := ⟨.rename "milliliter" "mL" (.times 0.001 liter), 32⟩
def centiliter : Measure := ⟨.rename "centiliter" "cL" (.times 0.01 liter), 33⟩
def deciliter : Measure := ⟨.rename "deciliter" "dL" (.times 0.1 liter), 34⟩
def hectoliter : Measure := ⟨.rename "hectoliter" "hL" (.times 100.0 liter), 35⟩
def meter3 : Measure := ⟨.rename "meter³" "m³" (.pow meter 3), 36⟩

/-- The volumes. -/
def volumeUnits : Catalog where
  name := "volume"
  units :=
    [liter, milliliter, centiliter, deciliter, hectoliter, meter3]


/-! ## Speeds -/

def meterPerSecond : Measure := ⟨.rename "meter/second" "m/s" (.div meter second), 37⟩
def kilometerPerHour : Measure := ⟨.rename "kilometer/hour" "km/h" (.div kilometer hour), 38⟩
def milePerHour : Measure := ⟨.rename "mile/hour" "mi/h" (.div mile hour), 39⟩
def knot : Measure := ⟨.rename "knot" "kn" (.times 1.852 kilometerPerHour), 40⟩

/-- The speeds. -/
def speedUnits : Catalog where
  name := "speed"
  units :=
    [meterPerSecond, kilometerPerHour, milePerHour, knot]


/-! ## Energies and powers -/

def joule : Measure :=
  ⟨.rename "joule" "J" (.mul (.mul (.pow meter 2) kilogram) (.pow second (-2))), 41⟩
def kilojoule : Measure := ⟨.rename "kilojoule" "kJ" (.times 1000.0 joule), 42⟩
def megajoule : Measure := ⟨.rename "megajoule" "MJ" (.times 1000000.0 joule), 43⟩
def gigajoule : Measure := ⟨.rename "gigajoule" "GJ" (.times 1000000000.0 joule), 44⟩
def watt : Measure := ⟨.rename "watt" "W" (.div joule second), 45⟩
def kilowatt : Measure := ⟨.rename "kilowatt" "kW" (.times 1000.0 watt), 46⟩
def megawatt : Measure := ⟨.rename "megawatt" "MW" (.times 1000000.0 watt), 47⟩
def wattSecond : Measure := ⟨.rename "watt-second" "Wsec" (.mul watt second), 48⟩
def wattHour : Measure := ⟨.rename "watt-hour" "Wh" (.mul watt hour), 49⟩
def kilowattHour : Measure := ⟨.rename "kilowatt-hour" "kWh" (.times 1000.0 wattHour), 50⟩
def calorie : Measure := ⟨.rename "calorie" "cal" (.times 4.1868 joule), 51⟩
def kilocalorie : Measure := ⟨.rename "kilocalorie" "kcal" (.times 1000.0 calorie), 52⟩
def horsepower : Measure := ⟨.rename "horsepower" "hp" (.times 0.73549875 kilowatt), 53⟩

/-- The energies and powers. -/
def energyUnits : Catalog where
  name := "energy"
  units :=
    [joule, kilojoule, megajoule, gigajoule, watt, kilowatt, megawatt, wattSecond, wattHour,
     kilowattHour, calorie, kilocalorie, horsepower]


/-! ## Forces -/

def newton : Measure := ⟨.rename "newton" "N" (.mul (.mul meter kilogram) (.pow second (-2))), 54⟩
def micronewton : Measure := ⟨.rename "micronewton" "mN" (.times 0.000001 newton), 55⟩

/-- The forces. -/
def forceUnits : Catalog where
  name := "force"
  units :=
    [newton, micronewton]


/-! ## Pressures -/

def pascal : Measure := ⟨.rename "pascal" "Pa" (.mul newton (.pow meter (-2))), 56⟩
def hectopascal : Measure := ⟨.rename "hectopascal" "hPa" (.times 100.0 pascal), 57⟩
def kilopascal : Measure := ⟨.rename "kilopascal" "KPa" (.times 1000.0 pascal), 58⟩
def bar : Measure := ⟨.rename "bar" "bar" (.times 100000.0 pascal), 59⟩
def millibar : Measure := ⟨.rename "millibar" "mbar" (.times 0.001 bar), 60⟩
def atmosphere : Measure := ⟨.rename "atmosphere" "atm" (.times 101325.0 pascal), 61⟩

/-- The pressures. -/
def pressureUnits : Catalog where
  name := "pressure"
  units :=
    [pascal, hectopascal, kilopascal, bar, millibar, atmosphere]


/-! ## Electricity -/

def ampere : Measure := ⟨.rename "ampere" "A" (.coherent electricCurrent), 62⟩
def milliampere : Measure := ⟨.rename "milliampere" "mA" (.times 0.001 ampere), 63⟩
def coulomb : Measure := ⟨.rename "coulomb" "C" (.mul second ampere), 64⟩
def volt : Measure := ⟨.rename "volt" "V" (.div watt ampere), 65⟩
def ohm : Measure := ⟨.rename "ohm" "Ω" (.div volt ampere), 66⟩
def farad : Measure := ⟨.rename "farad" "F" (.div coulomb volt), 67⟩

/-- The electric units. -/
def electricUnits : Catalog where
  name := "electric"
  units :=
    [ampere, milliampere, coulomb, volt, ohm, farad]


/-! ## Frequencies -/

def hertz : Measure := ⟨.rename "Hertz" "hz" (.pow second (-1)), 68⟩
def megahertz : Measure := ⟨.rename "MegaHertz" "Mhz" (.times 1000000.0 hertz), 69⟩
def rpm : Measure := ⟨.rename "Rounds per minute" "rpm" (.pow minute (-1)), 70⟩

/-- The frequencies. -/
def frequencyUnits : Catalog where
  name := "frequency"
  units :=
    [hertz, megahertz, rpm]


/-! ## Pure numbers -/

def absolute : Measure := ⟨.rename "absolute" "-" .one, 71⟩
def percentage : Measure := ⟨.rename "percentage" "%" (.times 0.01 .one), 72⟩

/-- The units of pure numbers. -/
def relativeUnits : Catalog where
  name := "relative"
  units :=
    [absolute, percentage]


/-! ## Amounts of substance -/

def mole : Measure := ⟨.rename "mole" "mol" (.coherent amountOfSubstance), 73⟩

/-- The amounts of substance. -/
def substanceUnits : Catalog where
  name := "substance"
  units :=
    [mole]


/-! ## Temperatures -/

def kelvin : Measure := ⟨.rename "Kelvin" "K" (.coherent thermodynamicTemperature), 74⟩
def degreeCelsius : Measure := ⟨.rename "degree celsius" "°C" (.coherent celsiusTemperature), 75⟩
def degreeFahrenheit : Measure :=
  ⟨.rename "degree fahrenheit" "°F" (.coherent fahrenheitTemperature), 76⟩

/-- The temperature scales. -/
def temperatureUnits : Catalog where
  name := "temperature"
  units :=
    [kelvin, degreeCelsius, degreeFahrenheit]


/-- The catalogs in the order of registration. -/
def all : List Catalog :=
  [lengthUnits, massUnits, timeUnits, surfaceUnits, volumeUnits, speedUnits,
   energyUnits, forceUnits, pressureUnits, electricUnits, frequencyUnits, relativeUnits,
   substanceUnits, temperatureUnits]

/-- The catalog with a name. -/
def find? (name : String) : Option Catalog :=
  all.find? fun c => c.name = name

/-- The units of all catalogs. -/
def allUnits : List Measure :=
  all.flatMap (·.units)

end Catalog

end Metrology
