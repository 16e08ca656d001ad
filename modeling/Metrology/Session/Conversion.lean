import Metrology.Session.Lookup

/-!
# Converting quantities

A quantity that has the target unit stays itself. Between units of one dimension the value is
rescaled. Otherwise the conversion function for the two dimensions is applied to the quantity in the
unit that the function takes, and its answer is converted to the target. Functions may have
quantities converted in turn, as deep as the facilities let them go: this is the one recursion that
its arguments do not bound, so it is the only one that takes a depth.
-/

namespace Metrology

namespace Session

/-- Count a conversion by the path it took, or as failed where no path was found. -/
def counted (conversion : SessionM (Quantity × Path)) : SessionM Quantity := do
  try
    let (q, path) ← conversion
    count (.conversion path)
    pure q
  catch fault => do
    if let .notConvertible .. := fault then count (.conversion .none)
    throw fault

/-- Run a routine in which quantities are converted by `convert`. -/
def run (convert : Quantity → Measure → SessionM Quantity) : Routine → SessionM Quantity
  | .answer value unit => do quantity value (← resolveRef none unit)
  | .give q => pure q
  | .fail fault => throw fault
  | .convert q target next => do run convert (next (← convert q target))

/-- Apply a conversion function to a quantity in the unit that it takes. -/
def apply (convert : Quantity → Measure → SessionM Quantity) (c : Conversion) (q : Quantity) :
    SessionM Quantity := do
  note (.applied c.label q.value q.unit.name)
  run convert (c.apply q)

/-- The conversion of a quantity and the path that it took, at most `depth` inside one another. -/
def convertWithin (id : Nat) : Nat → Quantity → Measure → SessionM (Quantity × Path)
  | 0, _, _ => throw .tooDeep
  | depth + 1, q, target => do
    if q.unit.same target then pure (q, .identity)
    else if q.unit.compatible target then
      let r ← quantity (q.unit.rescale target q.value) target
      pure (r, .linear)
    else
      match (← registry id).conversion? q.unit target with
      | none => throw (.notConvertible q.unit (some target))
      | some c =>
        let (argument, _) ← convertWithin id depth q c.source
        let answer ← apply (fun q target => counted (convertWithin id depth q target)) c argument
        let (r, _) ← convertWithin id depth answer target
        pure (r, .function)

/-- Convert a quantity to another unit. -/
def convert (id : Nat) (q : Quantity) (target : Measure) : SessionM Quantity := do
  let depth := (← currentFacilities).deepest
  counted (convertWithin id depth q target)

end Session

end Metrology
