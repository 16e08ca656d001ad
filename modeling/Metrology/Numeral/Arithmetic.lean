import Metrology.Numeral.Binary
import Metrology.Numeral.Rounding

/-!
# Arithmetic that never fails

Quotients and whole powers of doubles with the results of the floating-point standard: dividing by
zero gives an infinity with the sign of the exact limit, and too large a power an infinity.
-/

namespace Metrology.Numeral

/-- The quotient of two doubles. Zero by zero and what is not a number by zero is not a number;
anything else by zero is infinite, with the product of the signs. -/
def quotient (a b : Float) : Float :=
  if b == 0.0 then
    if a == 0.0 || a.isNaN then notANumber
    else signed (isNegative a != isNegative b) infinity
  else a / b

/-- A double raised to a whole power. A zero to a negative power is infinite, and so is a power of
a finite double that exceeds the largest double or whose exponent does; the result is negative for
odd powers of negative bases. -/
def wholePower (base : Float) (exponent : Int) : Float :=
  match ofWhole? exponent with
  | none => signed (exponent % 2 != 0 && base < 0.0) infinity
  | some e =>
    if base == 0.0 && exponent < 0 then signed (exponent % 2 != 0 && isNegative base) infinity
    else
      let result := Float.pow base e
      if isFinite base && !isFinite result then signed (exponent % 2 != 0 && base < 0.0) infinity
      else result

end Metrology.Numeral
