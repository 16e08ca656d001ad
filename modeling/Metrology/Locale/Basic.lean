/-!
# Locales

A locale decides the symbols of written numbers; its numbers are written with the digits `0` to `9`.
-/

namespace Metrology

/-- The symbols of written numbers. -/
structure Symbols where
  decimal : String := "."
  group : String := ","
  minus : String := "-"
  plus : String := "+"
  exponential : String := "E"
  infinity : String := "∞"
  notANumber : String := "NaN"

/-- A locale: its identifier, and how it writes numbers. -/
structure Locale where
  tag : String
  symbols : Symbols

end Metrology
