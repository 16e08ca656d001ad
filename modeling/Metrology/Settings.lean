import Metrology.Record
import Metrology.Text.Whole

/-!
# Settings

The settings of a session and how they are read from environment variables.
-/

namespace Metrology

/-- The settings of a session. -/
structure Settings where
  /-- To how many decimals quantities are rounded before they are compared. -/
  equalityPrecision : Int := 8
  /-- The format of quantities where none is given. -/
  defaultFormat : String := "GG"
  /-- The locale of numbers where none is given. -/
  defaultLocale : String := "en_US"
  /-- Whether the standing registry begins with the standard units. -/
  standardUnits : Bool := true
deriving DecidableEq

/-- Environment variables with their values. -/
abbrev Environment := List (String × String)

namespace Settings

/-- The variable for the equality precision. -/
def precisionVariable : String := "AMOUNTS_EQUALITY_PRECISION"

/-- The variable for the default format. -/
def formatVariable : String := "AMOUNTS_DEFAULT_FORMAT"

/-- The variable for the default locale. -/
def localeVariable : String := "AMOUNTS_DEFAULT_LOCALE"

/-- The variable that says whether the standard units are registered. -/
def unitsVariable : String := "AMOUNTS_REGISTER_STANDARD_UNITS"

/-- The variables that settings are read from. -/
def variableNames : List String :=
  [precisionVariable, formatVariable, localeVariable, unitsVariable]

/-- The words that switch a setting on, in any case. -/
def affirmative (word : String) : Bool :=
  ["true", "1", "yes"].contains (Numeral.lowered word.toList)

/-- What is said about a precision that is no whole number. -/
def precisionWarning (word : String) : String :=
  s!"Invalid integer for {precisionVariable}={word}, using default 8"

/-- The settings that the environment gives, and the warnings about it. Variables that are absent
leave the defaults. -/
def ofEnvironment (env : Environment) : Settings × List String :=
  let standard : Settings := {}
  let format := (env.lookup formatVariable).getD standard.defaultFormat
  let locale := (env.lookup localeVariable).getD standard.defaultLocale
  let units := ((env.lookup unitsVariable).map affirmative).getD
    standard.standardUnits
  let settings := { standard with
    defaultFormat := format, defaultLocale := locale, standardUnits := units }
  match env.lookup precisionVariable with
  | none => (settings, [])
  | some word =>
    match Text.whole? word.toList with
    | some n => ({ settings with equalityPrecision := n }, [])
    | none => (settings, [precisionWarning word])

/-- The fields of the settings. -/
def fields (s : Settings) : Fields :=
  [("equality_precision", .whole s.equalityPrecision), ("default_format", .text s.defaultFormat),
   ("default_locale", .text s.defaultLocale), ("register_standard_units", .truth s.standardUnits)]

/-- The settings with a field replaced, if there is such a field and it takes the value. -/
def withField (s : Settings) (field : String × Raw) : Except Flaw Settings := do
  match field.1 with
  | "equality_precision" => pure { s with equalityPrecision := ← field.2.readWhole }
  | "default_format" => pure { s with defaultFormat := ← field.2.readText }
  | "default_locale" => pure { s with defaultLocale := ← field.2.readText }
  | "register_standard_units" => pure { s with standardUnits := ← field.2.readTruth }
  | _ => .error .superfluous

/-- The settings with the given fields; the others have their defaults. -/
def ofFields (fs : Fields) : Except Flaw Settings :=
  fs.foldlM withField {}

end Settings

end Metrology
