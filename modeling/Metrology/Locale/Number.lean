import Metrology.Locale.Basic
import Metrology.Numeral.Notation

/-!
# Numbers in a locale

A double written with fifteen significant digits in a locale's symbols.
-/

namespace Metrology

open Text Numeral

namespace Symbols

/-- Text written with the sign `-` and the point, in the symbols of a locale. -/
def localized (y : Symbols) (s : List Char) : List Char :=
  s.flatMap fun c =>
    if c = '-' then y.minus.toList else if c = '.' then y.decimal.toList else [c]

/-- A double with up to fifteen significant digits. -/
def general (y : Symbols) (x : Float) : String :=
  match anatomy x with
  | .notANumber => y.notANumber
  | .infinite negative => if negative then y.minus ++ y.infinity else y.infinity
  | .finite negative b =>
    match significant negative b with
    | (mantissa, none) => String.ofList (y.localized mantissa)
    | (mantissa, some e) =>
      String.ofList (y.localized mantissa) ++ y.exponential ++
        String.ofList (y.localized (toString e).toList)

end Symbols

end Metrology
