import Metrology.Argument
import Metrology.Fault
import Metrology.Locale.Basic

/-!
# Facilities

What a session relies on and does not decide itself: which locales there are, how numbers are
written and read in them, and how deep conversion functions may go. Nothing is known of these but
what the types say, so what holds of a session holds whichever they are. A refusal of a locale, of a
pattern or of a text is a fault of the arguments or of the arithmetic (`Refusal.plain`), and there
is room for a conversion function that has a quantity converted by another one (`Facilities.room`).
-/

namespace Metrology

/-- Why no number is read. -/
inductive NumberFault where
  /-- The text is no number; `seen` is the text as it was read. -/
  | noNumber (seen : String) (cause : Numeral.FigureFault)
  | refused (r : Refusal)

/-- Locales, and how numbers are written and read in them. -/
structure Numerals where
  /-- The locale with an identifier. -/
  locale : String → Except Refusal Locale
  /-- An argument written by a number pattern. -/
  write : Locale → String → Argument → Except Refusal String
  /-- The number that a text is. -/
  read : Locale → String → Except NumberFault Float

/-- What a session relies on. -/
structure Facilities where
  numerals : Numerals
  /-- How many conversions may be under way inside one another. Conversion functions may have
  quantities converted in turn, so that conversions need not come to an end by themselves; nothing
  else is bounded, since looking a term up always ends. -/
  deepest : Nat
  room : 3 ≤ deepest

end Metrology
