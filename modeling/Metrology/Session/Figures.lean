import Metrology.Session.Format
import Metrology.Session.Operator

/-!
# Numbers as text

A number written with fifteen significant digits or by a pattern, in the symbols of a locale.
-/

namespace Metrology

namespace Session

/-- A number with up to fifteen significant digits. -/
def formatGeneral (x : Argument) (locale : Option String) : SessionM String := do
  let l ← localeOf locale
  pure (l.symbols.general (← toFloat x))

/-- A number by a pattern. -/
def formatNumber (x : Argument) (pattern : String) (locale : Option String) : SessionM String := do
  writeNumber (← localeOf locale) pattern x

end Session

end Metrology
