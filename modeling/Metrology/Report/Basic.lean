import Metrology.Table
import Metrology.Text.Quoted

/-!
# Reports

What the user is told about a fault: the kind of report, a message, a code to refer to it by, and
details by name in the order in which they were given. The kinds form a tree: reports about units,
reports about texts, and the general report above both. `Report.line` is the short form, `chain`
shows a report with the causes behind it.
-/

namespace Metrology

open Text

/-- The kinds of reports. -/
inductive ReportKind where
  | general
  | unit
  | unknownUnit
  | unitConversion
  | invalidArgument
  | parse
  | unitParse
  | amountParse
deriving DecidableEq, Repr

namespace ReportKind

/-- The name of a kind. -/
def name : ReportKind → String
  | general => "AmountsException"
  | unit => "UnitException"
  | unknownUnit => "UnknownUnitError"
  | unitConversion => "UnitConversionError"
  | invalidArgument => "InvalidArgumentError"
  | parse => "ParseException"
  | unitParse => "UnitParseError"
  | amountParse => "AmountParseError"

/-- Every kind. -/
def all : List ReportKind :=
  [general, unit, unknownUnit, unitConversion, invalidArgument, parse, unitParse, amountParse]

/-- The kind with a name. -/
def ofName? (s : String) : Option ReportKind :=
  all.find? fun k => k.name = s

/-- Whether a kind is about units. -/
def concernsUnits : ReportKind → Bool
  | unit | unknownUnit | unitConversion | invalidArgument => true
  | _ => false

/-- Whether a kind is about a text that was read. -/
def concernsText : ReportKind → Bool
  | parse | unitParse | amountParse => true
  | _ => false

/-- Whether a kind is about a value that is not acceptable. -/
def concernsValue (k : ReportKind) : Bool :=
  k.concernsText || k = invalidArgument

/-- What the codes of a kind begin with. -/
def area (k : ReportKind) : String :=
  if k.concernsUnits then "AM_UNIT" else if k.concernsText then "AM_PARSE" else "AM"

/-- A name in capitals, with an underscore before each capital but the first character. -/
def capitals : List Char → List Char
  | [] => []
  | c :: s => c.toUpper :: s.flatMap fun d => if d.isUpper then ['_', d] else [d.toUpper]

/-- The code of reports that have no code of their own. -/
def code (k : ReportKind) : String :=
  k.area ++ "_" ++ String.ofList (capitals k.name.toList)

end ReportKind

/-- The value of a detail. -/
inductive Detail where
  | text (s : String)
  | whole (n : Int)
deriving DecidableEq

/-- A detail as text. -/
def Detail.toText : Detail → String
  | .text s => s
  | .whole n => toString n

/-- A detail as it stands inside a description, texts in quotes. -/
def Detail.quoted : Detail → String
  | .text s => Text.quoted s
  | .whole n => toString n

/-- Details by name. -/
abbrev Details := Table String Detail

/-- What the user is told about a fault. -/
structure Report where
  kind : ReportKind
  message : String
  code : String
  details : Details

namespace Report

/-- A report. Without a code it gets that of its kind, and so it does where the code is empty. -/
def make (kind : ReportKind) (message : String) (code : Option String) (details : Details) :
    Report :=
  ⟨kind, message, if (code.getD "").isEmpty then kind.code else code.getD "", details⟩

/-- The details with another one, if it is given. -/
def withDetail (details : Details) (name : String) : Option Detail → Details
  | none => details
  | some d => details.put name d

/-- The details with the name of a unit and its dimension, if a unit is given. -/
def withUnit (details : Details) (unitName typeName : String) : Option (String × String) → Details
  | none => details
  | some (name, dimension) => (details.put unitName (.text name)).put typeName (.text dimension)

/-- What is said where no conversion leads from one unit to another. -/
def conversionMessage (details : Details) : String :=
  let nameOf key := ((details.get? key).map Detail.toText).getD "None"
  let source := nameOf "from_unit"
  let target := nameOf "to_unit"
  s!"Failed to convert from unit '{source}' to unit '{target}'. " ++
    "Units are not compatible and no conversions are defined."

/-- A report about a conversion, from the names and dimensions of the units. Without a message it
gets one that names them. -/
def conversion (message : Option String) (source target : Option (String × String))
    (details : Details) : Report :=
  let details := withUnit details "from_unit" "from_type" source
  let details := withUnit details "to_unit" "to_type" target
  make .unitConversion (message.getD (conversionMessage details)) none details

/-- A report about a text that was read and the offset of the fault in it. -/
def reading (kind : ReportKind) (message : String) (text : Option String) (offset : Option Int)
    (details : Details) : Report :=
  let details := withDetail details "text" (text.map .text)
  make kind message none (withDetail details "offset" (offset.map .whole))

/-- A report in one line. -/
def line (r : Report) : String :=
  s!"[{r.code}] - {r.message}"

/-- A description of a report, in which the texts stand as they are. -/
def description (r : Report) : String :=
  s!"{r.kind.name}(message='{r.message}', error_code='{r.code}')"

/-- The details in braces, texts in quotes. -/
def detailsText (details : Details) : String :=
  let items := details.entries.map fun (name, d) => s!"{quoted name}: {d.quoted}"
  "\x7b" ++ joined ", " items ++ "\x7d"

end Report

/-- A link of a chain of causes: a report, or a line about some other fault. -/
inductive Link where
  | report (r : Report)
  | other (line : String)

/-- The lines of a link. -/
def Link.lines : Link → List String
  | .report r => [r.line, "  Context: " ++ Report.detailsText r.details]
  | .other line => [line]

/-- A fault and its causes, each below the one that it led to. -/
def chain (links : List Link) : String :=
  joined "\n" (links.flatMap Link.lines)

end Metrology
