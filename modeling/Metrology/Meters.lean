import Metrology.Table
import Metrology.Text.Order

/-!
# Meters

Counters of what a session did, and gauges of how much it holds. Every event moves one counter by
one; a gauge shows the last count reported to it. Meters that are switched off stay as they are.
-/

namespace Metrology

/-- How a conversion was found. -/
inductive Path where
  /-- The quantity has the target unit. -/
  | identity
  /-- The units differ in their factor only. -/
  | linear
  /-- A conversion function leads from one dimension to the other. -/
  | function
  /-- No conversion was found. -/
  | none
deriving DecidableEq, Repr

/-- How the search for a unit ended. -/
inductive Outcome where
  | hit
  | resolver
  | miss
deriving DecidableEq, Repr

/-- What a text was read as. -/
inductive ParseKind where
  | unit
  | amount
deriving DecidableEq, Repr

/-- What is counted. -/
inductive Event where
  | conversion (path : Path)
  | nameLookup (outcome : Outcome)
  | symbolLookup (outcome : Outcome)
  | parse (kind : ParseKind) (success : Bool)
deriving DecidableEq, Repr

/-- The counters and gauges of a session. -/
structure Meters where
  enabled : Bool
  events : Table Event Nat
  /-- Units registered, by the name of the registry. -/
  units : Table String Nat
  /-- Conversion functions registered, by the name of the registry. -/
  functions : Table String Nat
  /-- Base dimensions. -/
  dimensions : Nat

namespace Meters

/-- Count an event. -/
def count (m : Meters) (e : Event) : Meters :=
  if m.enabled then { m with events := m.events.update e 0 (· + 1) } else m

/-- Report how many units a registry holds. -/
def showUnits (m : Meters) (registry : String) (n : Nat) : Meters :=
  if m.enabled then { m with units := m.units.put registry n } else m

/-- Report how many conversion functions a registry holds. -/
def showFunctions (m : Meters) (registry : String) (n : Nat) : Meters :=
  if m.enabled then { m with functions := m.functions.put registry n } else m

/-- Report how many base dimensions there are. -/
def showDimensions (m : Meters) (n : Nat) : Meters :=
  if m.enabled then { m with dimensions := n } else m

/-- How often an event happened. -/
def tally (m : Meters) (e : Event) : Nat := (m.events.get? e).getD 0

end Meters

/-- The label of a path. -/
def Path.label : Path → String
  | .identity => "identity"
  | .linear => "linear"
  | .function => "function"
  | .none => "none"

/-- Whether a conversion on a path succeeded. -/
def Path.result : Path → String
  | .none => "error"
  | _ => "success"

/-- The label of an outcome. -/
def Outcome.label : Outcome → String
  | .hit => "hit"
  | .resolver => "resolver"
  | .miss => "miss"

/-- The label of what a text was read as. -/
def ParseKind.label : ParseKind → String
  | .unit => "unit"
  | .amount => "amount"

/-- The rows of a reading: labels and the number, as text and in order. -/
abbrev Rows := List (List String)

namespace Meters

/-- The rows of the events that have labels. -/
def rowsOf (m : Meters) (labels : Event → Option (List String)) : Rows :=
  Text.sortedRows (m.events.entries.filterMap fun (e, n) => (labels e).map (· ++ [toString n]))

/-- Conversions by path and result. -/
def conversionRows (m : Meters) : Rows :=
  m.rowsOf fun | .conversion p => some [p.label, p.result] | _ => none

/-- Timed conversions by path. -/
def durationRows (m : Meters) : Rows :=
  m.rowsOf fun | .conversion p => some [p.label] | _ => none

/-- Searches for units by method and outcome. -/
def lookupRows (m : Meters) : Rows :=
  m.rowsOf fun
    | .nameLookup o => some ["name", o.label]
    | .symbolLookup o => some ["symbol", o.label]
    | _ => none

/-- Texts read, by kind and result. -/
def parseRows (m : Meters) : Rows :=
  m.rowsOf fun
    | .parse k success => some [k.label, if success then "success" else "error"]
    | _ => none

/-- A gauge by the names of the registries. -/
def gaugeRows (gauge : Table String Nat) : Rows :=
  Text.sortedRows (gauge.entries.map fun (name, n) => [name, toString n])

/-- The rows of all counters and gauges, by their names. -/
def readings (m : Meters) : List (String × Rows) :=
  [("conversions", m.conversionRows), ("durations", m.durationRows), ("lookups", m.lookupRows),
   ("parses", m.parseRows), ("units", gaugeRows m.units), ("functions", gaugeRows m.functions)]

end Meters

end Metrology
