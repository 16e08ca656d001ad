import Metrology.Session.Quantity

/-!
# Aggregates

Sums and averages of quantities that are selected from items, the larger and the smaller of two
quantities, and a quantity kept between two bounds. A sum is expressed in the unit of its first
quantity.
-/

namespace Metrology

namespace Session

/-- The sum of two quantities, of which the first may still be missing. -/
def addTo : Option Quantity → Option Quantity → SessionM (Option Quantity)
  | none, item => pure item
  | some _, none => throw .wrongKind
  | some total, some item => do pure (some (← add total item none))

/-- The sum of the quantities selected from items; that of none is zero. -/
def sum {α : Type} (select : α → SessionM (Option Quantity)) (items : List α) :
    SessionM Quantity := do
  let total ← items.foldlM (fun total item => do addTo total (← select item)) none
  match total with
  | some q => pure q
  | none => quantity 0.0 .one

/-- The average of the quantities selected from items. -/
def average {α : Type} (select : α → SessionM (Option Quantity)) (items : List α) :
    SessionM Quantity := do
  let quantities ← items.mapM select
  if quantities.isEmpty then throw .emptyAverage
  let total ← sum pure quantities
  quantity (Numeral.quotient total.value (quantities.length.toFloat)) total.unit

/-- The larger of two quantities, the second where they are equal. -/
def larger (a b : Quantity) : SessionM Quantity := do
  pure (if (← compare a b none) == .gt then a else b)

/-- The smaller of two quantities, the second where they are equal. -/
def smaller (a b : Quantity) : SessionM Quantity := do
  pure (if (← compare a b none) == .lt then a else b)

/-- A quantity kept between two bounds. -/
def limit (q least most : Quantity) : SessionM Quantity := do
  larger least (← smaller q most)

end Session

end Metrology
