import Metrology.Numeral.Rounding
import Metrology.Text.Search

/-!
# Doubles as text

`text` writes a double with the fewest digits that read back: positionally while the leading digit
stands between the fourth decimal place and the sixteenth place before the point, otherwise with a
signed exponent of at least two digits. `significant` writes fifteen significant digits.
-/

namespace Metrology.Numeral

open Text (padLeft)

/-- The digits of a decimal laid out around the point; the first digit has the place value
`10 ^ leading`. A whole number ends in `wholeEnd`. -/
def positional (digits : List Char) (leading : Int) (wholeEnd : List Char) : List Char :=
  let count : Int := digits.length
  if leading < 0 then
    '0' :: '.' :: (List.replicate (-leading - 1).toNat '0' ++ digits)
  else if count ≤ leading + 1 then
    digits ++ List.replicate (leading + 1 - count).toNat '0' ++ wholeEnd
  else
    digits.take (leading + 1).toNat ++ '.' :: digits.drop (leading + 1).toNat

/-- The first digit, and behind a point the others if there are any. -/
def mantissaText : List Char → List Char
  | [] => []
  | [d] => [d]
  | d :: rest => d :: '.' :: rest

/-- A signed exponent of at least two digits. -/
def exponentText (e : Int) : List Char :=
  (if e < 0 then '-' else '+') :: padLeft '0' 2 (digitText e.natAbs)

/-- A non-negative decimal as the shortest notation lays it out. -/
def Decimal.text (d : Decimal) : List Char :=
  let digits := digitText d.digits
  let leading := d.exponent + digits.length - 1
  if d.digits == 0 then ['0', '.', '0']
  else if -4 ≤ leading && leading < 16 then positional digits leading ['.', '0']
  else mantissaText digits ++ 'e' :: exponentText leading

/-- A double in the shortest notation. -/
def text (x : Float) : String :=
  match anatomy x with
  | .notANumber => "nan"
  | .infinite negative => if negative then "-inf" else "inf"
  | .finite negative b =>
    let s := b.shortest.text
    String.ofList (if negative then '-' :: s else s)

/-- A double in the shortest notation, a whole number without its empty fraction. -/
def plainText (x : Float) : String :=
  let s := (text x).toList
  String.ofList ((Text.dropEnding? ['.', '0'] s).getD s)

/-- A finite double with fifteen significant digits: the mantissa with its sign, and the exponent
where the leading digit stands below the fourth decimal place or above the fifteenth place. Zeros
at the end of the fraction are dropped. -/
def significant (negative : Bool) (b : Binary) : List Char × Option Int :=
  let sign := if negative then ['-'] else []
  if b.mantissa == 0 then (sign ++ ['0'], none)
  else
    let scale := b.decimalScale
    let d := (b.roundedTo (15 - scale)).normal
    let digits := digitText d.digits
    let leading := d.exponent + digits.length - 1
    if -4 ≤ leading && leading < 15 then (sign ++ positional digits leading [], none)
    else (sign ++ mantissaText digits, some leading)

end Metrology.Numeral
