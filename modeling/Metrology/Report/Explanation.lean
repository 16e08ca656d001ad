import Metrology.Report.Basic
import Metrology.Fault

/-!
# Explaining faults

The report that explains a fault to the user. Faults of the arguments or of the arithmetic have
none.
-/

namespace Metrology

open Text

/-- The name and the dimension of a unit, as a report tells them. -/
def Basis.introduce (b : Basis) (m : Measure) : String × String :=
  (m.name, b.describe m.dimension)

/-- The detail that names the way in which a unit was looked for. -/
def Lookup.label : Lookup → String
  | .name => "name"
  | .symbol => "symbol"
  | .expression => "expression"

/-- The name of the detail that tells what was looked for. -/
def Lookup.keyName : Lookup → String
  | .expression => "term"
  | lookup => lookup.label

/-- What is said where a unit was not found. -/
def Lookup.message (key : String) : Lookup → String
  | .name => s!"No unit found named '{key}'."
  | .symbol => s!"No unit found with symbol '{key}'."
  | .expression => s!"No unit found named or with symbol '{key}'."

/-- What is said where something else stands in the place of a unit. -/
def Misplaced.message : Misplaced → String
  | .base => "A unit must be based on a UnitType or another Unit."
  | .registration => "Only Unit instances can be registered."
  | .reference => "A unit must be given as a Unit or a unit name."

/-- The name of the argument in which something else stands in the place of a unit. -/
def Misplaced.argument : Misplaced → String
  | .base => "base"
  | _ => "unit"

/-- What is said where a number is asked of a quantity that has a dimension. -/
def dimensionMessage : String :=
  "An amount can only be cast to a number when it is expressed in a dimensionless unit."

namespace Fault

/-- A report about an argument. -/
def aboutArgument (message argument : String) (others : List (String × Detail)) : Report :=
  .make .invalidArgument message none (Table.ofList (("argument", .text argument) :: others))

/-- The report that explains a fault. -/
def report? (b : Basis) : Fault → Option Report
  | unknownUnit lookup key =>
    some (.make .unknownUnit (lookup.message key) none
      (Table.ofList [(lookup.keyName, .text key), ("lookup", .text lookup.label)]))
  | notConvertible source target =>
    some (.conversion none (some (b.introduce source)) (target.map b.introduce) ∅)
  | pipeInName name =>
    some (aboutArgument "The name of a dimension must not contain the '|' (pipe) character."
      "name" [("value", .text name)])
  | notAUnit place kind => some (aboutArgument place.message place.argument [("type", .text kind)])
  | emptyAverage => some (aboutArgument "Cannot average an empty sequence of amounts." "items" [])
  | emptyTerm offset text =>
    some (.reading .unitParse s!"Empty term at offset {offset} in unit expression '{text}'."
      (some text) (some offset) ∅)
  | badNumber text _ _ =>
    some (.reading .amountParse s!"'{text}' is not a valid number." (some text) (some 0) ∅)
  | _ => none

/-- A report explains the faults of the first group, and no others. -/
theorem isSome_report? (b : Basis) (f : Fault) : (f.report? b).isSome = f.concernsUnits := by
  cases f <;> rfl

/-- What is said about the numeral that made a text unreadable. -/
def signal : Numeral.FigureFault → String
  | .malformed => "ConversionSyntax"
  | .outOfRange => "InvalidOperation"

/-- The lines about the causes behind a fault. -/
def causes : Fault → List Link
  | badNumber _ seen cause =>
    [.other s!"NumberFormatError: {quoted seen} is not a valid decimal number",
     .other s!"InvalidOperation: [<class 'decimal.{signal cause}'>]"]
  | _ => []

/-- The report that explains a fault, and the causes below it. -/
def links (b : Basis) (f : Fault) : List Link :=
  (f.report? b).toList.map .report ++ f.causes

end Fault

end Metrology
