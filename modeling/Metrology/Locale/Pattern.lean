import Metrology.Locale.Number
import Metrology.Text.CharClass
import Metrology.Text.Search

/-!
# Number patterns

A number pattern such as `#,##0.00` or `0.000 'of' m;(0.000)` has a part for positive numbers and,
behind a semicolon, one for negative numbers. Each part is text, a number and text again; only the
number of the positive part counts. `Pattern.parse?` reads a pattern, and `Pattern.render` writes an
exact decimal by it. Rounding is half to even, and a rounded number may have at most 28 digits.
-/

namespace Metrology

open Text Numeral

/-- The least and the greatest count of digits. -/
structure DigitRange where
  least : Nat
  most : Nat
deriving DecidableEq

/-- The text before and after a number. -/
structure Affixes where
  before : List Char
  after : List Char
deriving DecidableEq

/-- The exponent of a pattern: how many digits, and whether a positive one has a sign. -/
structure ExponentPattern where
  digits : DigitRange
  plus : Bool
deriving DecidableEq

/-- A number pattern. -/
structure Pattern where
  positive : Affixes
  negative : Affixes
  /-- The sizes of the group before the decimal symbol and of the groups further left. -/
  grouping : Option (Nat × Nat)
  whole : DigitRange
  fraction : DigitRange
  exponent : Option ExponentPattern
  /-- Digits are counted from the leading one. -/
  significant : Bool
  /-- The number is left out. -/
  silent : Bool
  /-- The number is written a hundred or a thousand times as large. -/
  tens : Nat
deriving DecidableEq

/-- Why a number cannot be written by a pattern. -/
inductive PatternFault where
  /-- The pattern asks for significant digits and for decimals at once. -/
  | malformed
  /-- The rounded number has more digits than a decimal can hold. -/
  | tooPrecise
deriving DecidableEq, Repr

/-- What a pattern writes, apart from its sign. -/
inductive Magnitude where
  | finite (d : Decimal)
  | infinite
  | notANumber
deriving DecidableEq

/-- How many digits an exact decimal can have. -/
def decimalWidth : Nat := 28

namespace Magnitude

/-- Sign and magnitude of a double, by its shortest decimal. -/
def ofFloat (x : Float) : Bool × Magnitude :=
  match anatomy x with
  | .notANumber => (false, .notANumber)
  | .infinite negative => (negative, .infinite)
  | .finite negative b => (negative, .finite b.shortest)

/-- Sign and magnitude of a whole number. -/
def ofWhole (n : Int) : Bool × Magnitude :=
  (n < 0, .finite ⟨n.natAbs, 0⟩)

/-- A decimal rounded to the digits that it can have. -/
def fitted (d : Decimal) : Decimal :=
  let excess := digitCount d.digits - decimalWidth
  if excess = 0 then d else ⟨roundQuotient d.digits (natPower 10 excess), d.exponent + excess⟩

/-- A magnitude times a power of ten. -/
def shifted (n : Int) : Magnitude → Magnitude
  | .finite d => .finite (fitted ⟨d.digits, d.exponent + n⟩).normal
  | m => m

/-- The exponent of the leading digit; zero, infinity and what is not a number have 0. -/
def leading : Magnitude → Int
  | .finite d => if d.digits = 0 then 0 else d.exponent + digitCount d.digits - 1
  | _ => 0

/-- How many decimals a magnitude has. -/
def decimals : Magnitude → Nat
  | .finite d => (-d.normal.exponent).toNat
  | _ => 0

/-- A decimal rounded to a number of places, in units of the last place. -/
def atPlaces? (d : Decimal) (places : Int) : Except PatternFault Nat :=
  let e := d.exponent + places
  let n :=
    if 0 ≤ e then d.digits * natPower 10 e.toNat
    else roundQuotient d.digits (natPower 10 (-e).toNat)
  if digitCount n ≤ decimalWidth then .ok n else .error .tooPrecise

end Magnitude

namespace Pattern

/-! ## Reading a pattern -/

/-- Whether a character ends the text before a number. -/
def startsNumber (c : Char) : Bool :=
  c.isDigit || ['@', '#', '.', ','].contains c

/-- Whether a character belongs to a number once it has begun. -/
def inNumber (c : Char) : Bool :=
  startsNumber c || c = 'E' || c = '+'

/-- The text before a number, and the rest. Between two quotes every character is text; a quote
without a partner ends the text. -/
def spanText (quoted : Bool) : List Char → List Char × List Char
  | [] => ([], [])
  | c :: s =>
    if quoted then
      let (p, rest) := spanText (c ≠ '\'') s
      (c :: p, rest)
    else if c = '\'' then
      if s.contains '\'' then
        let (p, rest) := spanText true s
        (c :: p, rest)
      else ([], c :: s)
    else if startsNumber c then ([], c :: s)
    else
      let (p, rest) := spanText false s
      (c :: p, rest)

/-- One part of a pattern: its affixes and its number. The text after the number ends with the
line. -/
def readPart (s : List Char) : Affixes × List Char :=
  let (before, rest) := spanText false s
  let number := rest.takeWhile inNumber
  (⟨before, (rest.dropWhile inNumber).takeWhile (· ≠ '\n')⟩, number)

/-- The digits asked for by the signs at the beginning of a text: `0` and `@` ask for a digit, `#`
allows one, and commas do not count. -/
def digitRange : List Char → DigitRange
  | [] => ⟨0, 0⟩
  | c :: s =>
    let rest := digitRange s
    if c = '0' || c = '@' then ⟨rest.least + 1, rest.most + 1⟩
    else if c = '#' then ⟨rest.least, rest.most + 1⟩
    else if c = ',' then rest
    else ⟨0, 0⟩

/-- The sizes of the groups: what stands behind the last comma, and between the last two. -/
def grouping? (whole : List Char) : Option (Nat × Nat) :=
  (cutLast? ',' whole).map fun (before, last) =>
    match cutLast? ',' before with
    | some (_, second) => (last.length, second.length)
    | none => (last.length, last.length)

/-- The exponent of a pattern, from what stands behind the `E`. -/
def exponentPattern? (s : List Char) : Option ExponentPattern :=
  if s.isEmpty then none
  else some ⟨digitRange (s.dropWhile (· = '+')), s.head? = some '+'⟩

/-- By how many places the number is shifted: two for a percent sign in any of the texts, else
three for a per mille sign. -/
def tensOf (positive negative : Affixes) : Nat :=
  let texts := positive.before ++ negative.before ++ positive.after ++ negative.after
  if texts.contains '%' then 2 else if texts.contains '‰' then 3 else 0

/-- Read a number pattern. A pattern without a part for negative numbers puts a hyphen before the
part for positive ones. -/
def parse? (text : String) : Except PatternFault Pattern :=
  let s := text.toList
  let parts := cutFirst? ';' s
  let (positive, number) := readPart ((parts.map (·.1)).getD s)
  let negative := match parts with
    | some (_, second) => (readPart second).1
    | none => ⟨'-' :: positive.before, positive.after⟩
  let (number, exponent) := match cutFirst? 'E' number with
    | some (number, e) => (number, exponentPattern? e)
    | none => (number, none)
  if number.contains '@' && number.contains '.' && number.contains '0' then .error .malformed
  else
    let (whole, fraction) := (cutLast? '.' number).getD (number, [])
    .ok {
      positive, negative, exponent
      grouping := grouping? whole
      whole := digitRange whole
      fraction := digitRange fraction
      significant := s.contains '@'
      silent := number.isEmpty
      tens := tensOf positive negative }

/-! ## Writing a number by a pattern -/

/-- Digits in groups: the first size is that of the last group, the second that of the others. A
group of size zero takes all digits that are left, with the group symbol before them. -/
def grouped (symbol : List Char) (size next : Nat) (s : List Char) : List Char :=
  if s.length ≤ size then s
  else if _h : size = 0 then symbol ++ s
  else
    grouped symbol next next (s.take (s.length - size)) ++ symbol ++ s.drop (s.length - size)
termination_by s.length
decreasing_by simp only [List.length_take]; omega

/-- The digits before the decimal symbol, filled up with zeros to a width and grouped. -/
def wholeText (p : Pattern) (y : Symbols) (width : Nat) (s : List Char) : List Char :=
  let s := padLeft '0' width s
  match p.grouping with
  | some (size, next) => grouped y.group.toList size next s
  | none => s

/-- The decimal symbol and the decimals: at least the least count, and no zeros at the end beyond
it. Nothing is written where no decimals are allowed, or none are asked for and all are zero. -/
def fractionText (y : Symbols) (range : DigitRange) (s : List Char) : List Char :=
  let s := s ++ List.replicate (range.least - s.length) '0'
  if range.most = 0 || (range.least = 0 && s.all (· = '0')) then []
  else
    y.decimal.toList ++ s.take range.least ++ trimEnd (· = '0') (s.drop range.least)

/-- A number of units of the last place, parted at the point. -/
def partsAt (places n : Nat) : List Char × List Char :=
  let s := padLeft '0' (places + 1) (digitText n)
  (s.take (s.length - places), s.drop (s.length - places))

/-- A magnitude rounded to the most decimals of a range. -/
def fixedText (p : Pattern) (y : Symbols) (range : DigitRange) :
    Magnitude → Except PatternFault (List Char)
  | .infinite => .ok y.infinity.toList
  | .notANumber =>
    .ok (p.wholeText y p.whole.least ['N', 'a', 'N'] ++ fractionText y range ['0'])
  | .finite d => do
    let n ← Magnitude.atPlaces? d range.most
    let (whole, fraction) := partsAt range.most n
    let fraction := if fraction.isEmpty then ['0'] else fraction
    pure (p.wholeText y p.whole.least whole ++ fractionText y range fraction)

/-- Digits that end `scale` places behind the point, as whole part and fraction: decimals beyond
the least count of digits lose their zeros at the end, and a whole part of zero counts no digit. -/
def significantParts (range : DigitRange) (leading scale : Int) (digits : List Char) :
    List Char × List Char :=
  if scale ≤ 0 then (digits ++ List.replicate (-scale).toNat '0', [])
  else
    let whole := digits.take (digits.length - scale.toNat)
    let rest := digits.drop (digits.length - scale.toNat)
    let kept := range.least - whole.length
    let zeros := List.replicate (-(min (leading + 1) 0)).toNat '0'
    (if whole.isEmpty then ['0'] else whole,
     zeros ++ rest.take kept ++ trimEnd (· = '0') (rest.drop kept))

/-- A magnitude rounded to the most significant digits of the pattern. -/
def significantText (p : Pattern) (y : Symbols) (m : Magnitude) :
    Except PatternFault (List Char) := do
  let scale := (p.whole.most : Int) - 1 - m.leading
  let digits ← match m with
    | .finite d => digitText <$> Magnitude.atPlaces? d scale
    | .notANumber => pure ['N', 'a', 'N']
    | .infinite => throw .tooPrecise
  let (whole, fraction) := significantParts p.whole m.leading scale digits
  pure (p.wholeText y 0 whole ++ if fraction.isEmpty then [] else y.decimal.toList ++ fraction)

/-- A magnitude with an exponent: the number has as many digits before the point as the pattern
asks for, at least one. -/
def exponentText (p : Pattern) (y : Symbols) (e : ExponentPattern) (m : Magnitude) :
    Except PatternFault (List Char) := do
  let lead : Int := max 1 p.whole.least - 1
  let power := m.leading - lead
  let m := m.shifted (-power)
  let range := if p.fraction = ⟨0, 0⟩ then ⟨0, m.decimals⟩ else p.fraction
  let number ← p.fixedText y range m
  let sign := if power < 0 then y.minus else if e.plus then y.plus else ""
  pure (number ++ y.exponential.toList ++ sign.toList ++
    p.wholeText y e.digits.least (digitText power.natAbs))

/-- Quoted text without its quotes, two quotes in a row being one; a quote without a partner
stays. `opened` says whether the quote before was opened, and whether nothing followed it yet. -/
def unquoted (opened : Option Bool) : List Char → List Char
  | [] => []
  | c :: s =>
    match opened with
    | some empty =>
      if c = '\'' then
        if empty then c :: unquoted none s else unquoted none s
      else c :: unquoted (some false) s
    | none =>
      if c = '\'' && s.contains '\'' then unquoted (some true) s else c :: unquoted none s

/-- Write a number by a pattern. -/
def render (p : Pattern) (y : Symbols) (negative : Bool) (m : Magnitude) :
    Except PatternFault String := do
  let m := m.shifted p.tens
  let number ← match p.exponent with
    | some e => p.exponentText y e m
    | none => if p.significant then p.significantText y m else p.fixedText y p.fraction m
  let affixes := if negative then p.negative else p.positive
  let number := if p.silent then [] else number
  pure (String.ofList (unquoted none (affixes.before ++ number ++ affixes.after)))

end Pattern

end Metrology
