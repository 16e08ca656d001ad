import Metrology.Text.CharClass

/-!
# Whole numbers as text

Reading accepts blanks around the numeral, one sign directly before the digits, decimal digits of
any script, and single underscores between two digits. A numeral has a bounded number of digits,
zeros at its beginning included. The bound is one of texts only: it decides which numerals are read
and which numbers are shown to someone who inspects a value, while exponents are multiplied, added
and put into the names of units without any.
-/

namespace Metrology.Text

/-- How many digits a numeral can have. -/
def longestNumeral : Nat := 4300

/-- The value of a run of digits, most significant first. -/
def digitsValue (digits : List Nat) : Nat :=
  digits.foldl (fun n d => 10 * n + d) 0

/-- The digits of a run in which single underscores may stand between two digits. -/
def digitRun? : List Char → Option (List Nat)
  | [] => none
  | [c] => (digit? c).map ([·])
  | c :: '_' :: s => do
    let d ← digit? c
    let rest ← digitRun? s
    pure (d :: rest)
  | c :: s => do
    let d ← digit? c
    let rest ← digitRun? s
    pure (d :: rest)

/-- A sign and what stands behind it; a numeral without a sign is positive. -/
def splitSign : List Char → Bool × List Char
  | '-' :: s => (true, s)
  | '+' :: s => (false, s)
  | s => (false, s)

/-- The whole number that a text stands for. -/
def whole? (text : List Char) : Option Int :=
  let (negative, s) := splitSign (trim isBlank text)
  match digitRun? s with
  | none => none
  | some digits =>
    if digits.length ≤ longestNumeral then
      let n : Int := digitsValue digits
      some (if negative then -n else n)
    else none

/-- Whether a whole number has no more digits than a numeral can have. -/
def isWritable (n : Int) : Bool :=
  n.natAbs < Nat.pow 10 longestNumeral

end Metrology.Text
