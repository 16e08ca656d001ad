import Metrology.Session.Expression
import Metrology.Session.Conversion
import Metrology.Locale.Number

/-!
# Quantities as text

A format is one of six codes, or a number pattern in which `UG`, `UN` and `US` stand for the unit's
symbol, name and symbol. Behind a bar it names the unit to convert to first, or asks with `|?` for
the registered unit worth the same.
-/

namespace Metrology

open Text

/-- A formatter tried before the formats: its text for a format, if it has one. -/
abbrev Formatter := String → Option String

/-- The pattern of the code `N`. -/
def numericPattern : String := "#,##0.00"

/-- The two letters of a code: how the value and how the unit are written. -/
inductive Code where
  | mk (general : Bool) (unitFormat : String)

/-- The code that a format is. -/
def Code.ofFormat? : String → Option Code
  | "GG" => some ⟨true, "US"⟩
  | "GN" => some ⟨true, "UN"⟩
  | "GS" => some ⟨true, "US"⟩
  | "NG" => some ⟨false, "US"⟩
  | "NN" => some ⟨false, "UN"⟩
  | "NS" => some ⟨false, "US"⟩
  | _ => none

/-- The places for the unit in a pattern, the private characters that stand in for them while the
number is written, and the format of the unit. -/
def unitPlaces : List (List Char × Char × String) :=
  [(['U', 'G'], '\ue000', "US"), (['U', 'N'], '\ue001', "UN"), (['U', 'S'], '\ue002', "US")]

/-- A pattern in which private characters stand for the unit. -/
def withPlaces (pattern : List Char) : List Char :=
  unitPlaces.foldl (fun s place => replaceAll place.1 [place.2.1] s) pattern

/-- A written number in which the unit takes the places of the private characters. -/
def fillPlaces (unit : Denomination) (s : List Char) : List Char :=
  unitPlaces.foldl (fun s place => replaceAll [place.2.1] (unit.format place.2.2).toList s) s

/-- A text without white space at its end. -/
def trimmedEnd (s : String) : String :=
  String.ofList (trimEnd isSpace s.toList)

namespace Session

/-- The locale with an identifier, in which a hyphen stands for an underscore. -/
def localeNamed (identifier : String) : SessionM Locale := do
  let identifier := String.ofList (identifier.toList.map fun c => if c = '-' then '_' else c)
  granted ((← currentFacilities).numerals.locale identifier)

/-- The locale with an identifier, or that of the settings. -/
def localeOf : Option String → SessionM Locale
  | some identifier => localeNamed identifier
  | none => do localeNamed (← currentSettings).defaultLocale

/-- A number written by a pattern. -/
def writeNumber (l : Locale) (pattern : String) (x : Argument) : SessionM String := do
  granted ((← currentFacilities).numerals.write l pattern x)

/-- A quantity written by a code. -/
def writeByCode (q : Quantity) (c : Code) (l : Locale) : SessionM String := do
  let value ← if c.1 then pure (l.symbols.general q.value)
    else writeNumber l numericPattern (.scalar (.real q.value))
  pure (trimmedEnd (value ++ " " ++ q.unit.format c.2))

/-- A quantity written by a pattern. -/
def writeByPattern (q : Quantity) (pattern : String) (l : Locale) : SessionM String := do
  let number ← writeNumber l (String.ofList (withPlaces pattern.toList)) (.scalar (.real q.value))
  pure (trimmedEnd (String.ofList (fillPlaces q.unit.toDenomination number.toList)))

/-- The quantity in the unit that a format asks for behind its bar. -/
def convertForFormat (q : Quantity) (target : List Char) (id : Option Nat) : SessionM Quantity := do
  let id ← registryOr id
  let unit ← if target = ['?'] then do pure ((← resolveNamed? id q.unit).getD q.unit)
    else parseUnit (some id) (String.ofList target)
  convert id q unit

/-- A quantity written by a format without a bar. -/
def writeBy (q : Quantity) (fmt : String) (l : Locale) : SessionM String :=
  match Code.ofFormat? fmt with
  | some c => writeByCode q c l
  | none => writeByPattern q fmt l

/-- A quantity as text. -/
def format (q : Quantity) (fmt : Option String) (locale : Option String)
    (formatter : Option Formatter) (id : Option Nat) : SessionM String := do
  let fmt ← match fmt with
    | some f => pure f
    | none => pure (← currentSettings).defaultFormat
  let l ← localeOf locale
  let special ← match formatter with
    | none => pure none
    | some f => do
      note (.formatted fmt q.value q.unit.symbol l.tag)
      pure (f fmt)
  match special with
  | some s => pure s
  | none =>
    match cutFirst? '|' fmt.toList with
    | none => writeBy q fmt l
    | some (fmt, target) => do
      writeBy (← convertForFormat q target id) (String.ofList fmt) l

end Session

end Metrology
