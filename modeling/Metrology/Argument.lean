import Metrology.Quantity.Basic
import Metrology.Numeral.Reader

/-!
# Arguments

What an operator or a writer of numbers may be given.
-/

namespace Metrology

open Numeral

/-- A number as it is given: whole numbers are exact. -/
inductive Scalar where
  | whole (n : Int)
  | real (x : Float)

/-- The number that a numeral stands for: a whole one where it consists of digits, and a real one
otherwise. -/
def Scalar.ofNumeral? (s : List Char) : Option Scalar :=
  let digits := match s with
    | '-' :: digits => digits
    | digits => digits
  if !digits.isEmpty && digits.all Char.isDigit then (Text.whole? s).map .whole
  else (float? s).map .real

/-- What an operator is given. -/
inductive Argument where
  | quantity (q : Quantity)
  | unit (m : Measure)
  | dimension (d : Dimension)
  | scalar (x : Scalar)
  | truth
  | text (s : String)
  | nothing
  | sequence

/-- The word for the kind of an argument. -/
def Argument.kind : Argument → String
  | .quantity _ => "Amount"
  | .unit _ => "Unit"
  | .dimension _ => "UnitType"
  | .scalar (.whole _) => "int"
  | .scalar (.real _) => "float"
  | .truth => "bool"
  | .text _ => "str"
  | .nothing => "NoneType"
  | .sequence => "list"

/-- Whether an argument is a number. -/
def Argument.isScalar : Argument → Bool
  | .scalar _ => true
  | _ => false

end Metrology
