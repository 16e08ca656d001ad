import Metrology.Numeral.Shortest

/-!
# Rounding

Exact quotients rounded to the nearest whole number, a half going to the even one, and doubles
rounded to a number of decimal places. Rounding a double takes its exact value, and the result is
the double nearest to the rounded decimal.
-/

namespace Metrology.Numeral

/-- The whole number nearest to `num / den`, a half going to the even one. -/
def roundQuotient (num den : Nat) : Nat :=
  let q := num / den
  match compare (2 * (num % den)) den with
  | .lt => q
  | .gt => q + 1
  | .eq => if q % 2 == 0 then q else q + 1

/-- The double nearest to `digits * 10 ^ exponent`; beyond the largest double it is infinite. -/
def Decimal.toFloat (d : Decimal) : Float :=
  if d.digits == 0 then 0.0
  else
    let leading := d.exponent + digitCount d.digits
    if 320 < leading then infinity
    else if leading < -330 then 0.0
    else Float.ofScientific d.digits (d.exponent < 0) d.exponent.natAbs

/-- The double nearest to a whole number, or `none` beyond the largest double. -/
def ofWhole? (n : Int) : Option Float :=
  let x := Decimal.toFloat ⟨n.natAbs, 0⟩
  if isFinite x then some (signed (n < 0) x) else none

/-- A magnitude rounded to a number of decimal places (negative: to tens, hundreds, …). -/
def Binary.roundedTo (b : Binary) (places : Int) : Decimal :=
  let (num, den) := b.scaledFraction places
  ⟨roundQuotient num den, -places⟩

/-- A double rounded to a number of decimal places, or `none` where the result exceeds the largest
double. Beyond 323 places a double is its own rounding, and to more than 308 tens it rounds to
zero; infinities and what is not a number stay. -/
def roundTo? (x : Float) (places : Int) : Option Float :=
  match anatomy x with
  | .finite negative b =>
    if 323 < places then some x
    else if places < -308 then some (signed negative 0.0)
    else
      let y := (b.roundedTo places).toFloat
      if isFinite y then some (signed negative y) else none
  | _ => some x

/-- The whole part of a finite double, toward zero. -/
def truncate? (x : Float) : Option Int :=
  match anatomy x with
  | .finite negative b => some (if negative then -(b.wholePart : Int) else b.wholePart)
  | _ => none

/-- A double without its fraction; a result of zero has no sign. -/
def wholePart (x : Float) : Float :=
  match truncate? x with
  | some n => (ofWhole? n).getD x
  | none => x

end Metrology.Numeral
