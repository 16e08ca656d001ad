import Metrology.Session.Conversion
import Metrology.Numeral.Rounding

/-!
# Operations on quantities

Conversion with rounding, splitting into whole parts, arithmetic and comparison. Sums and
differences are expressed in the unit of the first operand; products and quotients combine the
units without converting. Quantities are equal when their values agree after rounding to the
precision of the settings.
-/

namespace Metrology

open Numeral

namespace Session

/-- A quantity of a value in a unit or the unit with a name. -/
def newQuantity (value : Float) (unit : UnitRef) (id : Option Nat) : SessionM Quantity := do
  quantity value (← resolveRef id unit)

/-- A double rounded to a number of places. -/
def round (x : Float) (places : Int) : SessionM Float := do
  match roundTo? x places with
  | some y => pure y
  | none => throw .overflow

/-! ## Conversion -/

/-- Convert to another unit, and round the result if a number of decimals is given. -/
def convertTo (q : Quantity) (target : UnitRef) (decimals : Option Int) (id : Option Nat) :
    SessionM Quantity := do
  let id ← registryOr id
  let target ← resolveRef (some id) target
  let r ← convert id q target
  match decimals with
  | none => pure r
  | some places => do quantity (← round r.value places) target

/-- Every target but the last takes the whole part of what remains, and the last takes the rest,
rounded. -/
def splitOver (id : Nat) (decimals : Int) (rest : Quantity) :
    List Measure → SessionM (List Quantity)
  | [] => pure []
  | [last] => do pure [← convertTo rest (.unit last) (some decimals) (some id)]
  | m :: ms => do
    let whole ← convertTo rest (.unit m) none (some id)
    let part ← quantity (wholePart whole.value) m
    let taken ← convertTo part (.unit rest.unit) none (some id)
    let rest ← quantity (rest.value - taken.value) rest.unit
    pure (part :: (← splitOver id decimals rest ms))

/-- Split into whole parts of units, from coarse to fine. All units must have the dimension of the
quantity. -/
def split (q : Quantity) (targets : List UnitRef) (decimals : Int) (id : Option Nat) :
    SessionM (List Quantity) := do
  let id ← registryOr id
  let targets ← targets.mapM (resolveRef (some id))
  match targets.find? fun (m : Measure) => !q.unit.compatible m.toDenomination with
  | some m => throw (.notConvertible q.unit (some m))
  | none => splitOver id decimals q targets

/-- A named unit that is worth the quantity. -/
def asUnit (q : Quantity) : SessionM Measure := do
  let scalar := plainText q.value
  issue (.rename s!"{scalar}*{q.unit.name}" s!"{scalar}*{q.unit.symbol}"
    ((Derived.known q.unit).times q.value).denomination)

/-! ## Arithmetic -/

/-- The sum, in the unit of the first operand. -/
def add (a b : Quantity) (id : Option Nat) : SessionM Quantity := do
  let b ← convertTo b (.unit a.unit) none id
  quantity (a.value + b.value) a.unit

/-- The difference, in the unit of the first operand. -/
def subtract (a b : Quantity) (id : Option Nat) : SessionM Quantity := do
  let b ← convertTo b (.unit a.unit) none id
  quantity (a.value - b.value) a.unit

/-- The quantity with the opposite value. -/
def negate (q : Quantity) : SessionM Quantity :=
  quantity (-q.value) q.unit

/-- The quantity with the absolute value. -/
def absolute (q : Quantity) : SessionM Quantity :=
  quantity q.value.abs q.unit

/-- The product of values and units. -/
def multiply (a b : Quantity) : SessionM Quantity := do
  let unit ← issue (a.unit.mul b.unit)
  quantity (a.value * b.value) unit

/-- The quotient of values and units. -/
def divide (a b : Quantity) : SessionM Quantity := do
  let unit ← issue (a.unit.div b.unit)
  quantity (quotient a.value b.value) unit

/-- A number divided by a quantity. -/
def divideInto (x : Float) (q : Quantity) : SessionM Quantity := do
  let unit ← issue (.reciprocal "1" 1.0 q.unit)
  quantity (quotient x q.value) unit

/-- A whole power of value and unit. -/
def power (q : Quantity) (n : Int) : SessionM Quantity := do
  let unit ← issue (q.unit.pow n)
  quantity (wholePower q.value n) unit

/-- The quantity with its value rounded to a number of places. -/
def roundQuantity (q : Quantity) (places : Int) : SessionM Quantity := do
  quantity (← round q.value places) q.unit

/-! ## Comparison -/

/-- Whether two values agree to the precision of the settings. -/
def roundedEqual (a b : Float) : SessionM Bool := do
  let precision := (← currentSettings).equalityPrecision
  let a ← round a precision
  let b ← round b precision
  pure (a == b)

/-- Whether two quantities are equal. Quantities that cannot be converted into one another are
not. -/
def equal (a b : Quantity) (id : Option Nat) : SessionM Bool := do
  if a.same b then pure true
  else
    let id ← registryOr id
    if !(← registry id).isConvertible b.unit a.unit then pure false
    else
      let b ← convert id b a.unit
      roundedEqual a.value b.value

/-- The order of two quantities. -/
def compare (a b : Quantity) (id : Option Nat) : SessionM Ordering := do
  let b ← convertTo b (.unit a.unit) none id
  if ← roundedEqual a.value b.value then pure .eq
  else pure (if a.value < b.value then .lt else .gt)

/-- The order of two units of one dimension by their factors. -/
def compareUnits (a b : Measure) : SessionM Ordering := do
  if !a.compatible b then throw (.notConvertible a (some b))
  pure (if a.factor < b.factor then .lt else if b.factor < a.factor then .gt else .eq)

/-- Check that two units have the same dimension; no unit is that of pure numbers. -/
def requireCompatible (a : Measure) (b : Option Measure) : SessionM Unit := do
  if !a.compatible (b.getD .one) then throw (.notConvertible a b)

/-! ## Numbers -/

/-- The value of a quantity of a pure number. -/
def toNumber (q : Quantity) : SessionM Float := do
  try
    pure (← convertTo q (.unit .one) none none).value
  catch
    | .notConvertible .. => throw .hasDimension
    | fault => throw fault

/-- The whole part of a double. -/
def toWhole (x : Float) : SessionM Int := do
  match truncate? x with
  | some n => pure n
  | none => throw (if x.isNaN then .badValue else .overflow)

end Session

end Metrology
