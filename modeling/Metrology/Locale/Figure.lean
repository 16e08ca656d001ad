import Metrology.Locale.Basic
import Metrology.Numeral.Reader

/-!
# Reading numbers in a locale

An exact decimal is a literal, or a word for an infinity or for what is not a number. A number in a
locale is one whose group symbols do not count and whose decimal symbol is the point.
-/

namespace Metrology

open Text Numeral

namespace Numeral

/-- What a text stands for where exact decimals are read. -/
inductive Figure where
  | finite (l : Literal)
  | infinite (negative : Bool)
  | notANumber
  /-- A value that stands for an error and refuses to become a double. -/
  | signalling
deriving DecidableEq

/-- The greatest exponent of the leading digit of an exact decimal. -/
def greatestExponent : Int := 999999999999999999

/-- The least exponent of the last digit of an exact decimal. -/
def leastExponent : Int := -1999999999999999997

/-- Whether an exact decimal can be held. -/
def Decimal.holdable (d : Decimal) : Bool :=
  let leading := if d.digits == 0 then d.exponent else d.exponent + digitCount d.digits - 1
  leading ≤ greatestExponent && leastExponent ≤ d.exponent

/-- The word of an exact decimal that is no literal; digits may follow the two that are not
numbers. -/
def figureWord? (negative : Bool) (s : List Char) : Option Figure :=
  let word := lowered s
  if word = "inf" || word = "infinity" then some (.infinite negative)
  else
    match dropStart? ['n', 'a', 'n'] (s.map Char.toLower),
      dropStart? ['s', 'n', 'a', 'n'] (s.map Char.toLower) with
    | some rest, _ => if rest.all isDigit then some .notANumber else none
    | none, some rest => if rest.all isDigit then some .signalling else none
    | none, none => none

/-- The exact decimal that a text stands for: white space around it is trimmed and underscores
anywhere are passed over. -/
def figure? (text : List Char) : Except FigureFault Figure :=
  let s := (trim isSpace text).filter (· != '_')
  match literal? s with
  | some l => if l.value.holdable then .ok (.finite l) else .error .outOfRange
  | none =>
    let (negative, word) := splitSign s
    match figureWord? negative word with
    | some f => .ok f
    | none => .error .malformed

/-- The double nearest to an exact decimal; a signalling one has none. -/
def Figure.toFloat? : Figure → Option Float
  | .finite l => some l.toFloat
  | .infinite negative => some (signed negative infinity)
  | .notANumber => some Numeral.notANumber
  | .signalling => none

end Numeral

/-- The characters that readers and writers take for one another as group symbols. -/
def groupSpaces : List Char := [' ', '\u00a0', '\u202f']

namespace Symbols

/-- A text whose spaces stand for the group symbol, where that is a space, is absent and another
kind of space is there instead. -/
def regrouped (y : Symbols) (s : List Char) : List Char :=
  match y.group.toList with
  | [g] =>
    if groupSpaces.contains g && !s.contains g then
      s.map fun c => if groupSpaces.contains c then g else c
    else s
  | _ => s

/-- The exact decimal that a text stands for: group symbols do not count, and the decimal symbol is
the point. -/
def figure? (y : Symbols) (s : List Char) : Except FigureFault Figure :=
  Numeral.figure? (replaceAll y.decimal.toList ['.'] (replaceAll y.group.toList [] s))

end Symbols

end Metrology
