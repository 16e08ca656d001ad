import Metrology.Facilities
import Metrology.Locale.Figure
import Metrology.Locale.Known
import Metrology.Locale.Pattern

/-!
# Numerals of the known locales

Locales by their identifiers, numbers written by patterns, and numbers read with a locale's group
and decimal symbols. Whole numbers are written from their digits, however many they are.
-/

namespace Metrology

/-- Why there is no locale with an identifier. -/
def LocaleFault.refusal : LocaleFault → Refusal
  | .malformed => ⟨.badValue, rfl⟩
  | .unknown => ⟨.unknownLocale, rfl⟩

/-- Why a number is not written by a pattern. -/
def PatternFault.refusal : PatternFault → Refusal
  | .malformed => ⟨.badValue, rfl⟩
  | .tooPrecise => ⟨.tooPrecise, rfl⟩

/-- A number with its sign, written by a pattern. -/
def Pattern.written (l : Locale) (pattern : String) (number : Bool × Magnitude) :
    Except PatternFault String := do
  let p ← Pattern.parse? pattern
  p.render l.symbols number.1 number.2

/-- An argument written by a pattern. What is no number has no digits to round, which is found only
after the pattern is read. -/
def Pattern.write (l : Locale) (pattern : String) : Argument → Except PatternFault String
  | .scalar (.real x) => Pattern.written l pattern (Magnitude.ofFloat x)
  | .scalar (.whole n) => Pattern.written l pattern (Magnitude.ofWhole n)
  | _ => do
    let _ ← Pattern.written l pattern (Magnitude.ofWhole 0)
    throw .tooPrecise

/-- The number that a text is in a locale. -/
def Symbols.read (y : Symbols) (text : String) : Except NumberFault Float :=
  let seen := y.regrouped text.toList
  match y.figure? seen with
  | .error cause => .error (.noNumber (String.ofList seen) cause)
  | .ok f =>
    match f.toFloat? with
    | some x => .ok x
    | none => .error (.refused ⟨.badValue, rfl⟩)

/-- The numerals of the known locales. -/
def Numerals.standard : Numerals where
  locale identifier := (Locale.parse? identifier).mapError LocaleFault.refusal
  write l pattern x := (Pattern.write l pattern x).mapError PatternFault.refusal
  read l := l.symbols.read

end Metrology
