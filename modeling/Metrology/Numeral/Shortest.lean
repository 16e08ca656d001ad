import Metrology.Numeral.Binary

/-!
# Shortest decimals

The decimal with the fewest digits that reads back as a given double. The reals that round to the
double form an interval, closed exactly when the mantissa is even; the search tries the grids with
one, two, … seventeen digits and takes, on the first grid with a point in the interval, the nearest
such point, an exact tie going to the even digit.
-/

namespace Metrology.Numeral

/-- A non-negative decimal, `digits * 10 ^ exponent`. -/
structure Decimal where
  digits : Nat
  exponent : Int
deriving DecidableEq

/-- Compare `a * 10 ^ i` with `n * 2 ^ j`. -/
def compareScaled (a : Nat) (i : Int) (n : Nat) (j : Int) : Ordering :=
  compare (a * natPower 10 i.toNat * natPower 2 (-j).toNat)
    (n * natPower 2 j.toNat * natPower 10 (-i).toNat)

/-- Whether a decimal lies among the reals that round to a magnitude. -/
def Binary.readsBack (b : Binary) (d : Decimal) : Bool :=
  let low := if b.narrowBelow then 4 * b.mantissa - 1 else 4 * b.mantissa - 2
  let high := 4 * b.mantissa + 2
  let closed := b.mantissa % 2 == 0
  let fromLow := compareScaled d.digits d.exponent low (b.exponent - 2)
  let fromHigh := compareScaled d.digits d.exponent high (b.exponent - 2)
  (fromLow == .gt || (closed && fromLow == .eq)) && (fromHigh == .lt || (closed && fromHigh == .eq))

/-- The nearest point of a grid that reads back, if one of the two neighbours on it does. -/
def Binary.onGrid? (b : Binary) (grid : Int) : Option Decimal :=
  let (num, den) := b.scaledFraction (-grid)
  let below : Decimal := ⟨num / den, grid⟩
  let above : Decimal := ⟨num / den + 1, grid⟩
  match b.readsBack below, b.readsBack above with
  | true, true =>
    match compare (2 * num) ((2 * below.digits + 1) * den) with
    | .lt => some below
    | .gt => some above
    | .eq => some (if below.digits % 2 == 0 then below else above)
  | true, false => some below
  | false, true => some above
  | false, false => none

/-- The exact decimal value of a magnitude. -/
def Binary.exact (b : Binary) : Decimal :=
  if 0 ≤ b.exponent then ⟨b.mantissa * natPower 2 b.exponent.toNat, 0⟩
  else ⟨b.mantissa * natPower 5 (-b.exponent).toNat, b.exponent⟩

/-- Move the zeros at the end of the digits into the exponent, at most `fuel` of them. -/
def Decimal.stripZeros : Nat → Decimal → Decimal
  | 0, d => d
  | fuel + 1, d =>
    if d.digits != 0 && d.digits % 10 == 0 then stripZeros fuel ⟨d.digits / 10, d.exponent + 1⟩
    else d

/-- The number of decimal digits of a natural number; zero has one. -/
def digitCount (n : Nat) : Nat :=
  (Nat.toDigits 10 n).length

/-- The decimal digits of a natural number. -/
def digitText (n : Nat) : List Char :=
  Nat.toDigits 10 n

/-- The decimal without zeros at the end of its digits. -/
def Decimal.normal (d : Decimal) : Decimal :=
  if d.digits == 0 then ⟨0, 0⟩ else d.stripZeros (digitCount d.digits)

/-- The shortest decimal that reads back as a magnitude. -/
def Binary.shortest (b : Binary) : Decimal :=
  if b.mantissa == 0 then ⟨0, 0⟩
  else
    let scale := b.decimalScale
    let found := (List.range 17).findSome? fun (n : Nat) =>
      b.onGrid? (scale - ((n : Int) + 1))
    (found.getD b.exact).normal

end Metrology.Numeral
