import Metrology.Numeral.Rounding
import Metrology.Text.Search
import Metrology.Text.Whole

/-!
# Decimal literals

A decimal literal is an optional sign, digits with at most one point among or around them (at least
one digit), and an optional exponent. `literal?` accepts exactly these texts, with decimal digits
of any script; the readers below add what may stand around or inside a literal.
-/

namespace Metrology.Numeral

open Text

/-- A decimal literal: `digits * 10 ^ exponent` with a sign. -/
structure Literal where
  negative : Bool
  value : Decimal
deriving DecidableEq

/-- The digits at the beginning of a text, and the rest. -/
def spanDigits : List Char → List Nat × List Char
  | [] => ([], [])
  | c :: s =>
    match digit? c with
    | none => ([], c :: s)
    | some d => let (ds, rest) := spanDigits s; (d :: ds, rest)

/-- The exponent at the end of a literal: nothing, or a mark, an optional sign and digits. -/
def exponent? : List Char → Option Int
  | [] => some 0
  | c :: s =>
    if c = 'e' || c = 'E' then
      let (negative, s) := splitSign s
      match spanDigits s with
      | (d :: ds, []) =>
        let n : Int := digitsValue (d :: ds)
        some (if negative then -n else n)
      | _ => none
    else none

/-- The decimal literal that a text is. -/
def literal? (s : List Char) : Option Literal :=
  let (negative, s) := splitSign s
  let (whole, s) := spanDigits s
  let (fraction, s) := match s with
    | '.' :: s => spanDigits s
    | s => ([], s)
  if whole.isEmpty && fraction.isEmpty then none
  else (exponent? s).map fun e =>
    ⟨negative, ⟨digitsValue (whole ++ fraction), e - fraction.length⟩⟩

/-- The double nearest to a literal. -/
def Literal.toFloat (l : Literal) : Float :=
  signed l.negative l.value.toFloat

/-- A text without its underscores, or `none` where one does not stand between two digits. -/
def dropUnderscores? (afterDigit : Bool) : List Char → Option (List Char)
  | [] => some []
  | '_' :: s =>
    match s with
    | c :: _ => if afterDigit && isDigit c then dropUnderscores? false s else none
    | [] => none
  | c :: s => (dropUnderscores? (isDigit c) s).map (c :: ·)

/-- A word in lower case, ASCII letters only. -/
def lowered (s : List Char) : String :=
  String.ofList (s.map Char.toLower)

/-- The double that a text stands for: a literal with blanks around it and underscores between
digits, or the words for infinity and not a number in any case. -/
def float? (text : List Char) : Option Float :=
  let s := trim isBlank text
  match (dropUnderscores? false s).bind literal? with
  | some l => some l.toFloat
  | none =>
    let (negative, word) := splitSign s
    match lowered word with
    | "inf" => some (signed negative infinity)
    | "infinity" => some (signed negative infinity)
    | "nan" => some notANumber
    | _ => none

/-- Why a text is no exact decimal. -/
inductive FigureFault where
  /-- It is no numeral. -/
  | malformed
  /-- Its exponent is out of range. -/
  | outOfRange
deriving DecidableEq, Repr

end Metrology.Numeral
