import Metrology.Argument
import Metrology.Catalog.Temperature
import Metrology.Catalog.Units
import Metrology.Command.Answer
import Metrology.Command.Grid
import Metrology.Command.Markup
import Metrology.Command.Pictographs
import Metrology.Command.Request
import Metrology.Command.Run
import Metrology.Command.Shortcode
import Metrology.Command.Style
import Metrology.Command.Terminal
import Metrology.Description
import Metrology.Dimension.Basic
import Metrology.Dimension.Basis
import Metrology.Expression.Basic
import Metrology.Facilities
import Metrology.Fault
import Metrology.Locale.Basic
import Metrology.Locale.Data
import Metrology.Locale.Figure
import Metrology.Locale.Identifier
import Metrology.Locale.Known
import Metrology.Locale.Number
import Metrology.Locale.Numerals
import Metrology.Locale.Pattern
import Metrology.Main
import Metrology.Measure.Basic
import Metrology.Meters
import Metrology.Numeral.Arithmetic
import Metrology.Numeral.Binary
import Metrology.Numeral.Notation
import Metrology.Numeral.Reader
import Metrology.Numeral.Rounding
import Metrology.Numeral.Shortest
import Metrology.Proofs.Dimension.Group
import Metrology.Proofs.Dimension.Interning
import Metrology.Proofs.Dimension.Mapping
import Metrology.Proofs.Dimension.Rendering
import Metrology.Proofs.Dimension.Vector
import Metrology.Proofs.Expression.Chain
import Metrology.Proofs.Expression.Compound
import Metrology.Proofs.Expression.Gap
import Metrology.Proofs.Expression.Nesting
import Metrology.Proofs.Expression.Operand
import Metrology.Proofs.Expression.Position
import Metrology.Proofs.Expression.Powers
import Metrology.Proofs.Expression.Reading
import Metrology.Proofs.Expression.Rearranging
import Metrology.Proofs.Expression.Rereading
import Metrology.Proofs.Expression.Respelling
import Metrology.Proofs.Expression.Spelling
import Metrology.Proofs.Expression.Terms
import Metrology.Proofs.Measure.Identity
import Metrology.Proofs.Measure.Squeezing
import Metrology.Proofs.Numeral.Decimal
import Metrology.Proofs.Numeral.Double
import Metrology.Proofs.Numeral.Literal
import Metrology.Proofs.Numeral.Monotone
import Metrology.Proofs.Numeral.Nearest
import Metrology.Proofs.Numeral.Notation
import Metrology.Proofs.Numeral.Order
import Metrology.Proofs.Numeral.Range
import Metrology.Proofs.Numeral.Return
import Metrology.Proofs.Numeral.Rounding
import Metrology.Proofs.Numeral.Shortest
import Metrology.Proofs.Numeral.Truncation
import Metrology.Proofs.Quantity.Formula
import Metrology.Proofs.Registry.Resolution
import Metrology.Proofs.Registry.Standard
import Metrology.Proofs.Registry.Summary
import Metrology.Proofs.Registry.Tables
import Metrology.Proofs.Session.Bulk
import Metrology.Proofs.Session.Calls
import Metrology.Proofs.Session.Comparison
import Metrology.Proofs.Session.Conversion
import Metrology.Proofs.Session.Counting
import Metrology.Proofs.Session.Faults
import Metrology.Proofs.Session.Formatting
import Metrology.Proofs.Session.Frame
import Metrology.Proofs.Session.Growth
import Metrology.Proofs.Session.History
import Metrology.Proofs.Session.Lookup
import Metrology.Proofs.Session.Naming
import Metrology.Proofs.Session.Operation
import Metrology.Proofs.Session.Ordering
import Metrology.Proofs.Session.Reading
import Metrology.Proofs.Session.Rescaling
import Metrology.Proofs.Session.Scales
import Metrology.Proofs.Session.Settling
import Metrology.Proofs.Session.Splitting
import Metrology.Proofs.Session.Summing
import Metrology.Proofs.Session.Symbols
import Metrology.Proofs.Session.Use
import Metrology.Proofs.Table.Counts
import Metrology.Proofs.Table.Index
import Metrology.Proofs.Text.Replacing
import Metrology.Proofs.Text.Search
import Metrology.Proofs.Text.Whole
import Metrology.Quantity.Basic
import Metrology.Record
import Metrology.Registry.Basic
import Metrology.Registry.Conversion
import Metrology.Registry.Entries
import Metrology.Registry.Fields
import Metrology.Report.Basic
import Metrology.Report.Explanation
import Metrology.Report.Json
import Metrology.Session.Aggregate
import Metrology.Session.Basic
import Metrology.Session.Conversion
import Metrology.Session.Entries
import Metrology.Session.Expression
import Metrology.Session.Figures
import Metrology.Session.Format
import Metrology.Session.Lookup
import Metrology.Session.Operator
import Metrology.Session.Quantity
import Metrology.Session.Reading
import Metrology.Session.Registration
import Metrology.Session.Standard
import Metrology.Settings
import Metrology.Table
import Metrology.Text.CharClass
import Metrology.Text.Letter
import Metrology.Text.Lines
import Metrology.Text.Order
import Metrology.Text.Printable
import Metrology.Text.Quoted
import Metrology.Text.Search
import Metrology.Text.Whole
import Metrology.Text.Width
