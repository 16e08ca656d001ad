import Metrology.Measure.Basic
import Metrology.Numeral.Reader

/-!
# Faults

Why an operation has no answer. The faults of the first group concern units, quantities and their
texts, and are described to the user by a report; those of the second group are faults of the
arguments or of the arithmetic.
-/

namespace Metrology

/-- How a unit was looked for. -/
inductive Lookup where
  | name
  | symbol
  | expression
deriving DecidableEq, Repr

/-- What an operation was given in the place of a unit. -/
inductive Misplaced where
  /-- The base of a declared unit. -/
  | base
  /-- A unit to be registered. -/
  | registration
  /-- The unit of a quantity. -/
  | reference
deriving DecidableEq, Repr

/-- Why an operation has no answer. -/
inductive Fault where
  /-- No unit is known by a name, a symbol or a term. -/
  | unknownUnit (lookup : Lookup) (key : String)
  /-- No conversion leads from one unit to the other. -/
  | notConvertible (source : Measure) (target : Option Measure)
  /-- The name of a base dimension contains the pipe character. -/
  | pipeInName (name : String)
  /-- Something of another kind stands in the place of a unit. -/
  | notAUnit (place : Misplaced) (kind : String)
  /-- There is no average of no quantities. -/
  | emptyAverage
  /-- A unit expression has an empty term. -/
  | emptyTerm (offset : Nat) (text : String)
  /-- A text is no number; `seen` is the text as it was read. -/
  | badNumber (text seen : String) (cause : Numeral.FigureFault)
  /-- An argument is of the wrong kind. -/
  | wrongKind
  /-- A quantity with a dimension is no number. -/
  | hasDimension
  /-- A text or a number has no value of the wanted kind. -/
  | badValue
  /-- A number is beyond the largest double. -/
  | overflow
  /-- A position is outside of a list. -/
  | outOfRange
  /-- A rounded number has too many digits. -/
  | tooPrecise
  /-- No locale has the identifier. -/
  | unknownLocale
  /-- Something lacks the part that an operation needs. -/
  | lacking
  /-- Conversion functions call one another without end. -/
  | tooDeep

/-- Whether a fault is of the first group. -/
def Fault.concernsUnits : Fault → Bool
  | .unknownUnit .. => true
  | .notConvertible .. => true
  | .pipeInName _ => true
  | .notAUnit .. => true
  | .emptyAverage => true
  | .emptyTerm .. => true
  | .badNumber .. => true
  | _ => false

/-- A fault of the second group. -/
structure Refusal where
  fault : Fault
  plain : fault.concernsUnits = false

end Metrology
