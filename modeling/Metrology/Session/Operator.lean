import Metrology.Argument
import Metrology.Session.Quantity

/-!
# Operators

What an operator makes of two arguments, of which one is a unit, a quantity or a dimension. The left
operand's rule is tried first and then the right operand's; where neither applies, things are
different from one another and all else is a fault.
-/

namespace Metrology

open Numeral

/-- The operators. -/
inductive Operator where
  | add
  | subtract
  | multiply
  | divide
  | less
  | atMost
  | greater
  | atLeast
  | equal
  | unequal
deriving DecidableEq, Repr

/-- What an operator answers. -/
inductive Answer where
  | quantity (q : Quantity)
  | unit (m : Measure)
  | dimension (d : Dimension)
  | truth (b : Bool)

namespace Session

/-- A number as a double. -/
def ofScalar : Scalar → SessionM Float
  | .real x => pure x
  | .whole n =>
    match ofWhole? n with
    | some x => pure x
    | none => throw .overflow

/-- An argument as a double: numbers, truth as 1, texts that are numbers, and quantities of pure
numbers. -/
def toFloat : Argument → SessionM Float
  | .scalar x => ofScalar x
  | .truth => pure 1.0
  | .text s =>
    match float? s.toList with
    | some x => pure x
    | none => throw .badValue
  | .quantity q => toNumber q
  | _ => throw .wrongKind

/-- Whether an argument is the number 1. -/
def isOnce : Argument → Bool
  | .scalar (.whole n) => n = 1
  | .scalar (.real x) => x == 1.0
  | .truth => true
  | _ => false

/-! ## Units -/

/-- Declare a unit worth another unit, or the unit with factor 1 of a dimension. -/
def declare (name symbol : String) : Argument → SessionM Measure
  | .unit m => issue (.rename name symbol m)
  | .dimension d => issue (.declare name symbol 1.0 d)
  | other => throw (.notAUnit .base other.kind)

/-- The factor of a multiple of a unit. -/
def multipleFactor (m : Measure) : Argument → SessionM Float
  | .quantity q => do toNumber (← quantity (q.value * m.factor) q.unit)
  | .text _ => throw .wrongKind
  | x => do pure ((← toFloat x) * m.factor)

/-- A multiple of a unit; once the unit is the unit itself. -/
def scaleUnit (m : Measure) (x : Argument) : SessionM Measure := do
  if isOnce x then pure m
  else
    let text := plainText (← toFloat x)
    let factor ← multipleFactor m x
    issue { m.multiple text 1.0 with factor }

/-- A unit times another unit or a number. -/
def multiplyUnit (m : Measure) : Argument → SessionM Measure
  | .unit n => issue (m.mul n)
  | x => scaleUnit m x

/-- A unit divided by another unit or by a number. -/
def divideUnit (m : Measure) : Argument → SessionM Measure
  | .unit n => issue (m.div n)
  | x => do
    let text := plainText (← toFloat x)
    issue (m.fraction text (← toFloat x))

/-- A number divided by a unit. -/
def invertUnit (m : Measure) (x : Argument) : SessionM Measure := do
  let text := plainText (← toFloat x)
  issue (.reciprocal text (← toFloat x) m)

/-! ## Quantities -/

/-- A quantity times a quantity or a number. -/
def multiplyBy (q : Quantity) : Argument → SessionM Quantity
  | .quantity r => multiply q r
  | .scalar x => do quantity (q.value * (← ofScalar x)) q.unit
  | .truth => quantity (q.value * 1.0) q.unit
  | _ => throw .wrongKind

/-- A quantity divided by a quantity or a number. -/
def divideBy (q : Quantity) : Argument → SessionM Quantity
  | .quantity r => divide q r
  | x => do quantity (quotient q.value (← toFloat x)) q.unit

/-! ## Operators -/

/-- Whether an order satisfies an operator of comparison. -/
def satisfies : Operator → Ordering → Bool
  | .less, o => o == .lt
  | .atMost, o => o != .gt
  | .greater, o => o == .gt
  | .atLeast, o => o != .lt
  | .equal, o => o == .eq
  | .unequal, o => o != .eq
  | _, _ => false

/-- The rule of a quantity on the left. -/
def quantityRule (op : Operator) (q : Quantity) (r : Argument) : SessionM (Option Answer) := do
  match op, r with
  | .add, .quantity r => some <$> .quantity <$> add q r none
  | .subtract, .quantity r => some <$> .quantity <$> subtract q r none
  | .multiply, .quantity _ => some <$> .quantity <$> multiplyBy q r
  | .multiply, .scalar _ => some <$> .quantity <$> multiplyBy q r
  | .divide, .quantity _ => some <$> .quantity <$> divideBy q r
  | .divide, .scalar _ => some <$> .quantity <$> divideBy q r
  | .equal, .quantity r => some <$> .truth <$> equal q r none
  | .unequal, .quantity r => do pure (some (.truth !(← equal q r none)))
  | op, .quantity r => do pure (some (.truth (satisfies op (← compare q r none))))
  | _, _ => pure none

/-- The rule of a unit on the left. Units are ordered only among one another. -/
def unitRule (op : Operator) (m : Measure) (r : Argument) : SessionM (Option Answer) := do
  match op, r with
  | .add, _ => pure none
  | .subtract, _ => pure none
  | .multiply, .unit _ => some <$> .unit <$> multiplyUnit m r
  | .multiply, .scalar _ => some <$> .unit <$> multiplyUnit m r
  | .divide, .unit _ => some <$> .unit <$> divideUnit m r
  | .divide, .scalar _ => some <$> .unit <$> divideUnit m r
  | .multiply, _ => pure none
  | .divide, _ => pure none
  | .equal, .unit n => pure (some (.truth (m.same n || m.agrees n)))
  | .unequal, .unit n => pure (some (.truth !(m.same n || m.agrees n)))
  | .equal, _ => pure none
  | .unequal, _ => pure none
  | op, .unit n => do pure (some (.truth (satisfies op (← compareUnits m n))))
  | _, .nothing => do
    requireCompatible m none
    throw .lacking
  | _, _ => throw .lacking

/-- The rule of a dimension on the left. -/
def dimensionRule (op : Operator) (d : Dimension) (r : Argument) : Option Answer :=
  match op, r with
  | .multiply, .dimension e => some (.dimension (d * e))
  | .divide, .dimension e => some (.dimension (d / e))
  | .equal, .dimension e => some (.truth (d = e))
  | .unequal, .dimension e => some (.truth (d ≠ e))
  | _, _ => none

/-- The rule of the left operand. -/
def leftRule (op : Operator) (l r : Argument) : SessionM (Option Answer) :=
  match l with
  | .quantity q => quantityRule op q r
  | .unit m => unitRule op m r
  | .dimension d => pure (dimensionRule op d r)
  | _ => pure none

/-- The comparison with its operands exchanged. -/
def Operator.exchanged : Operator → Option Operator
  | .less => some .greater
  | .atMost => some .atLeast
  | .greater => some .less
  | .atLeast => some .atMost
  | .equal => some .equal
  | .unequal => some .unequal
  | _ => none

/-- The rule of the right operand for an operand on its left. -/
def rightRule (op : Operator) (l r : Argument) : SessionM (Option Answer) := do
  match Operator.exchanged op with
  | some op => leftRule op r l
  | none =>
    match op, l, r with
    | .multiply, .scalar x, .quantity q => do
      pure (some (.quantity (← quantity ((← ofScalar x) * q.value) q.unit)))
    | .multiply, .scalar _, .unit m => some <$> .unit <$> scaleUnit m l
    | .divide, .scalar x, .quantity q => some <$> .quantity <$> do divideInto (← ofScalar x) q
    | .divide, .scalar _, .unit m => some <$> .unit <$> invertUnit m l
    | _, _, _ => pure none

/-- What an operator makes of two operands. -/
def operate (op : Operator) (l r : Argument) : SessionM Answer := do
  if let some a ← leftRule op l r then return a
  if let some a ← rightRule op l r then return a
  match op with
  | .equal => pure (.truth false)
  | .unequal => pure (.truth true)
  | _ => throw .wrongKind

/-- A whole power of an operand. -/
def raise (l : Argument) (n : Int) : SessionM Answer := do
  match l with
  | .quantity q => .quantity <$> power q n
  | .unit m => .unit <$> issue (m.pow n)
  | .dimension d => pure (.dimension (d ^ n))
  | _ => throw .wrongKind

/-- Whether two operands are one and the same thing. -/
def identical : Argument → Argument → Bool
  | .quantity a, .quantity b => a.same b
  | .unit a, .unit b => a.same b
  | .dimension a, .dimension b => a = b
  | .nothing, .nothing => true
  | .truth, .truth => true
  | _, _ => false

end Session

end Metrology
