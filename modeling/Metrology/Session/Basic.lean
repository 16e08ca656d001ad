import Metrology.Facilities
import Metrology.Meters
import Metrology.Registry.Basic
import Metrology.Settings

/-!
# Sessions

The state that operations share: the facilities, the base dimensions, the meters, the settings with
the environment that they are read from, the registries with the one that stands in where none is
named, the serial numbers, and a journal of the calls and warnings. An operation that fails keeps
what it changed before, and no operation changes the facilities.
-/

namespace Metrology

/-- An entry of the journal. -/
inductive Note where
  /-- A resolver was asked for a name. -/
  | consulted (resolver name : String)
  /-- A conversion function was called. -/
  | applied (label : Option String) (value : Float) (unit : String)
  /-- A formatter was called. -/
  | formatted (format : String) (value : Float) (symbol locale : String)
  | warned (text : String)

/-- The state that operations share. -/
structure Session where
  facilities : Facilities
  basis : Basis
  meters : Meters
  environment : Environment := []
  settings : Option Settings := none
  registries : List Registry := []
  /-- The registry that stands in where none is named. -/
  standing : Option Nat := none
  nextSerial : Nat
  journal : Array Note := #[]

/-- Operations on a session. -/
abbrev SessionM := EStateM Fault Session

namespace Session

/-- Write an entry into the journal. -/
def note (n : Note) : SessionM Unit :=
  modify fun s => { s with journal := s.journal.push n }

/-- Change the meters. -/
def meter (f : Meters → Meters) : SessionM Unit :=
  modify fun s => { s with meters := f s.meters }

/-- Count an event. -/
def count (e : Event) : SessionM Unit :=
  meter (·.count e)

/-- What the session relies on. -/
def currentFacilities : SessionM Facilities := do
  pure (← get).facilities

/-- What a facility answers, or the fault that it refuses with. -/
def granted {α : Type} : Except Refusal α → SessionM α
  | .ok a => pure a
  | .error r => throw r.fault

/-- A serial number that was not given out before. -/
def newSerial : SessionM Nat :=
  modifyGet fun s => (s.nextSerial, { s with nextSerial := s.nextSerial + 1 })

/-- Issue a unit. -/
def issue (d : Denomination) : SessionM Measure := do
  let serial ← newSerial
  pure { d with serial }

/-- Issue a unit that is not issued yet. -/
def realize : Derived → SessionM Measure
  | .known m => pure m
  | .fresh d => issue d

/-- Issue a quantity. -/
def quantity (value : Float) (unit : Measure) : SessionM Quantity := do
  let serial ← newSerial
  pure { value, unit, serial }

/-! ## Base dimensions -/

/-- The number of a base dimension, which is added under a name that is new. -/
def intern (name : String) : SessionM Nat := do
  if !Basis.admits name then throw (.pipeInName name)
  let s ← get
  match s.basis.number? name with
  | some i => pure i
  | none =>
    let basis := s.basis.insert name
    set { s with basis, meters := s.meters.showDimensions basis.size }
    pure s.basis.size

/-- The dimension with the given exponents at named base dimensions. -/
def dimensionOf (exponents : List (String × Int)) : SessionM Dimension := do
  let es ← exponents.foldlM (fun es (name, e) => do pure (setExponent es (← intern name) e)) []
  pure (Dimension.ofList es)

/-- The base dimension with a name. -/
def baseDimension (name : String) : SessionM Dimension := do
  pure (Dimension.base (← intern name))

/-- The name of the base dimension at a position, counted from the back if negative. -/
def nameAt (i : Int) : SessionM String := do
  match (← get).basis.nameAt? i with
  | some name => pure name
  | none => throw .outOfRange

/-! ## Settings -/

/-- The settings that the environment gives at present. -/
def readEnvironment : SessionM Settings := do
  let (settings, warnings) := Settings.ofEnvironment (← get).environment
  for w in warnings do note (.warned w)
  pure settings

/-- The settings, read from the environment on first use. -/
def currentSettings : SessionM Settings := do
  match (← get).settings with
  | some settings => pure settings
  | none =>
    let settings ← readEnvironment
    modify fun s => { s with settings := some settings }
    pure settings

/-- Replace the settings. -/
def useSettings (settings : Settings) : SessionM Unit :=
  modify fun s => { s with settings := some settings }

/-- Forget the settings, so that the next use reads the environment. -/
def resetSettings : SessionM Unit :=
  modify fun s => { s with settings := none }

/-- Replace the environment. -/
def useEnvironment (environment : Environment) : SessionM Unit :=
  modify fun s => { s with environment }

/-! ## Registries -/

/-- Add a registry without units, and answer its number. -/
def newRegistry (name : String) : SessionM Nat :=
  modifyGet fun s => (s.registries.length, { s with registries := s.registries ++ [.empty name] })

/-- The registry with a number. -/
def registry (id : Nat) : SessionM Registry := do
  pure ((← get).registries.getD id (.empty ""))

/-- Replace the registry with a number. -/
def putRegistry (id : Nat) (r : Registry) : SessionM Unit :=
  modify fun s => { s with registries := s.registries.set id r }

/-- Register a unit, and report the number of units if it was new. -/
def register (id : Nat) (m : Measure) : SessionM Unit := do
  let r ← registry id
  if !r.isRegistered m then
    let r := r.register m
    putRegistry id r
    meter (·.showUnits r.name r.units.length)

/-- Register units in order. -/
def registerAll (id : Nat) (ms : List Measure) : SessionM Unit :=
  ms.forM (register id)

/-- Register what is given as a unit, if it is one. -/
def registerRef (id : Nat) : UnitRef → SessionM Unit
  | .unit m => register id m
  | .name _ => throw (.notAUnit .registration "str")
  | .other kind => throw (.notAUnit .registration kind)

/-- Register a conversion function, and report how many there are. -/
def addConversion (id : Nat) (c : Conversion) : SessionM Unit := do
  let r := (← registry id).addConversion c
  putRegistry id r
  meter (·.showFunctions r.name r.conversions.size)

/-- Use a registry where none is named. -/
def useRegistry (id : Nat) : SessionM Unit :=
  modify fun s => { s with standing := some id }

/-- Forget the registry that stands in where none is named. -/
def resetRegistry : SessionM Unit :=
  modify fun s => { s with standing := none }

end Session

end Metrology
