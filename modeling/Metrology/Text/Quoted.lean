import Metrology.Text.Printable
import Metrology.Text.Search

/-!
# Quoted text

The form in which a text stands inside a description of a value: between single quotes, or between
double quotes where it holds a single quote and no double one. The quote in use and the backslash
are written behind a backslash; line feed, carriage return and tab have letters; any other
character without a glyph is written by its code point in the shortest of three widths.
-/

namespace Metrology.Text

/-- A number in lower-case hexadecimal digits, filled up with zeros to a width. -/
def hexadecimal (width n : Nat) : List Char :=
  padLeft '0' width (Nat.toDigits 16 n)

/-- A character without a glyph, by its code point. -/
def escapeCodePoint (c : Char) : List Char :=
  let n := c.toNat
  if n < 0x100 then '\\' :: 'x' :: hexadecimal 2 n
  else if n < 0x10000 then '\\' :: 'u' :: hexadecimal 4 n
  else '\\' :: 'U' :: hexadecimal 8 n

/-- A character as it stands between two quotes. -/
def quoteChar (quote c : Char) : List Char :=
  if c = quote || c = '\\' then ['\\', c]
  else if c = '\n' then ['\\', 'n']
  else if c = '\r' then ['\\', 'r']
  else if c = '\t' then ['\\', 't']
  else if isPrintable c then [c]
  else escapeCodePoint c

/-- The quote that a text is written between. -/
def quoteOf (s : List Char) : Char :=
  if s.contains '\'' && !s.contains '"' then '"' else '\''

/-- A text in its quoted form. -/
def quoted (text : String) : String :=
  let s := text.toList
  let quote := quoteOf s
  String.ofList (quote :: s.flatMap (quoteChar quote) ++ [quote])

end Metrology.Text
