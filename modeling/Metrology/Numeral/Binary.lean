/-!
# Doubles taken apart

Every double is not a number, an infinity, or a sign and a magnitude `mantissa * 2 ^ exponent`.
Everything exact that is said about a double (its digits, its rounding, its whole part) is computed
from the two numbers of the magnitude in natural arithmetic.
-/

namespace Metrology.Numeral

/-- The power `b ^ n` of natural numbers. -/
def natPower (b n : Nat) : Nat := Nat.pow b n

/-- A finite magnitude, `mantissa * 2 ^ exponent`. -/
structure Binary where
  mantissa : Nat
  exponent : Int
  /-- The gap to the next smaller double is half the gap to the next larger one. -/
  narrowBelow : Bool
deriving DecidableEq

/-- A double by its kind. -/
inductive Anatomy where
  | notANumber
  | infinite (negative : Bool)
  | finite (negative : Bool) (magnitude : Binary)
deriving DecidableEq

/-- The magnitude of a finite double from its bits. -/
def Binary.ofBits (bits : UInt64) : Binary :=
  let e := ((bits >>> 52) &&& 0x7FF).toNat
  let f := (bits &&& 0xFFFFFFFFFFFFF).toNat
  if e == 0 then ⟨f, -1074, false⟩ else ⟨natPower 2 52 + f, (e : Int) - 1075, f == 0 && e > 1⟩

/-- A double taken apart. -/
def anatomy (x : Float) : Anatomy :=
  let bits := x.toBits
  let negative := bits >>> 63 == 1
  if ((bits >>> 52) &&& 0x7FF) == 0x7FF then
    if (bits &&& 0xFFFFFFFFFFFFF) == 0 then .infinite negative else .notANumber
  else .finite negative (Binary.ofBits bits)

/-- Numerator and denominator of a magnitude scaled by a power of ten. -/
def Binary.scaledFraction (b : Binary) (tens : Int) : Nat × Nat :=
  (b.mantissa * natPower 2 b.exponent.toNat * natPower 10 tens.toNat,
   natPower 2 (-b.exponent).toNat * natPower 10 (-tens).toNat)

/-- The whole part of a magnitude. -/
def Binary.wholePart (b : Binary) : Nat :=
  let (num, den) := b.scaledFraction 0
  num / den

/-- Whether a magnitude is below a power of ten. -/
def Binary.belowPowerOfTen (b : Binary) (k : Int) : Bool :=
  let (num, den) := b.scaledFraction (-k)
  num < den

/-- The least `k` with a positive magnitude below `10 ^ k`: the place of its leading digit. The
binary logarithm times `log₁₀ 2` is at most two below it. -/
def Binary.decimalScale (b : Binary) : Int :=
  let low := ((b.mantissa.log2 : Int) + b.exponent) * 30103
  let k := low.fdiv 100000
  if b.belowPowerOfTen k then k
  else if b.belowPowerOfTen (k + 1) then k + 1
  else k + 2

/-- Positive infinity. -/
def infinity : Float := 1.0 / 0.0

/-- The double that is not a number. -/
def notANumber : Float := 0.0 / 0.0

/-- Whether a double is neither infinite nor not a number. -/
def isFinite (x : Float) : Bool :=
  match anatomy x with
  | .finite .. => true
  | _ => false

/-- Whether the sign of a double is negative; zeros have signs too. -/
def isNegative (x : Float) : Bool :=
  match anatomy x with
  | .notANumber => false
  | .infinite negative => negative
  | .finite negative _ => negative

/-- A double with the opposite sign where asked for. -/
def signed (negative : Bool) (x : Float) : Float :=
  if negative then -x else x

end Metrology.Numeral
