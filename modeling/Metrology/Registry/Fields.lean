import Metrology.Record
import Metrology.Registry.Entries

/-!
# Entries as records

Entries and summaries built from the values of named fields, and their fields. Entries do not change
once they are built, the counts of a summary may be replaced.
-/

namespace Metrology

/-- The names of the fields of a unit's entry. -/
def UnitEntry.fieldNames : List String :=
  ["name", "symbol", "factor", "dimension", "dimension_text", "is_named"]

/-- A unit's entry from fields. -/
def UnitEntry.ofFields (fs : Fields) : Checked UnitEntry :=
  fs.within fieldNames
    (UnitEntry.mk <$> fs.required "name" Raw.readText <*> fs.required "symbol" Raw.readText
      <*> fs.required "factor" Raw.readReal <*> fs.table "dimension"
      <*> fs.optional "dimension_text" "" Raw.readText
      <*> fs.optional "is_named" true Raw.readTruth)

/-- The names of the fields of a conversion's entry. -/
def ConversionEntry.fieldNames : List String :=
  ["from_unit", "from_symbol", "to_unit", "to_symbol", "from_dimension", "to_dimension"]

/-- A conversion's entry from fields. -/
def ConversionEntry.ofFields (fs : Fields) : Checked ConversionEntry :=
  fs.within fieldNames
    (ConversionEntry.mk <$> fs.required "from_unit" Raw.readText
      <*> fs.required "from_symbol" Raw.readText <*> fs.required "to_unit" Raw.readText
      <*> fs.required "to_symbol" Raw.readText <*> fs.optional "from_dimension" "" Raw.readText
      <*> fs.optional "to_dimension" "" Raw.readText)

/-- The names of the fields of a summary. -/
def RegistrySummary.fieldNames : List String :=
  ["total_units", "named_units", "unit_types", "conversion_functions", "resolvers", "symbols",
   "units_by_dimension"]

/-- A summary from fields. -/
def RegistrySummary.ofFields (fs : Fields) : Checked RegistrySummary :=
  fs.within fieldNames
    (RegistrySummary.mk <$> fs.optional "total_units" 0 Raw.readCount
      <*> fs.optional "named_units" 0 Raw.readCount <*> fs.optional "unit_types" 0 Raw.readCount
      <*> fs.optional "conversion_functions" 0 Raw.readCount
      <*> fs.optional "resolvers" 0 Raw.readCount <*> fs.optional "symbols" 0 Raw.readCount
      <*> fs.table "units_by_dimension")

/-! ## Entries as fields -/

/-- The fields of a unit's entry. -/
def UnitEntry.fields (e : UnitEntry) : Fields :=
  [("name", .text e.name), ("symbol", .text e.symbol), ("factor", .real e.factor),
   ("dimension", .ofWholes e.dimension), ("dimension_text", .text e.dimensionText),
   ("is_named", .truth e.named)]

/-- The fields of a conversion's entry. -/
def ConversionEntry.fields (e : ConversionEntry) : Fields :=
  [("from_unit", .text e.sourceName), ("from_symbol", .text e.sourceSymbol),
   ("to_unit", .text e.targetName), ("to_symbol", .text e.targetSymbol),
   ("from_dimension", .text e.sourceDimension), ("to_dimension", .text e.targetDimension)]

/-- The fields of a summary. -/
def RegistrySummary.fields (s : RegistrySummary) : Fields :=
  [("total_units", .whole s.units), ("named_units", .whole s.named),
   ("unit_types", .whole s.dimensions), ("conversion_functions", .whole s.conversions),
   ("resolvers", .whole s.resolvers), ("symbols", .whole s.symbols),
   ("units_by_dimension", .ofWholes s.unitsByDimension)]

/-- What a registry can be described by. -/
inductive EntryKind where
  | unit
  | conversion
  | summary
deriving DecidableEq, Repr

namespace EntryKind

/-- The kind with a name. -/
def ofName? : String → Option EntryKind
  | "UnitInfo" => some unit
  | "ConversionInfo" => some conversion
  | "RegistryStatistics" => some summary
  | _ => none

/-- An entry from fields, as the fields that it has then. -/
def build (fs : Fields) : EntryKind → Checked Fields
  | unit => UnitEntry.fields <$> UnitEntry.ofFields fs
  | conversion => ConversionEntry.fields <$> ConversionEntry.ofFields fs
  | summary => RegistrySummary.fields <$> RegistrySummary.ofFields fs

/-- An entry with a field replaced: only a summary can be changed, and there the new value is not
checked; `none` where a summary has no such field. -/
def replace (fs : Fields) (name : String) (r : Raw) : EntryKind → Option (Checked Fields)
  | summary =>
    if fs.any fun f => f.1 = name then
      some (.ok (fs.map fun f => if f.1 = name then (name, r) else f))
    else none
  | _ => some (.flawed [(name, .fixed)])

end EntryKind

end Metrology
