import Metrology.Dimension.Basis
import Metrology.Numeral.Arithmetic
import Metrology.Numeral.Notation

/-!
# Units of measure

A unit of measure pairs a factor with a dimension. Units that are declared have a name and a symbol
of their own; units that algebra makes from others have a name and a symbol that spell out how.
Symbols hold no two multiplication signs and no two division signs in a row.

`Denomination` is what a unit is called and worth; its algebra is pure. A `Measure` is one unit
among others: a denomination under a serial number, since two units that agree in every respect can
still be registered separately.
-/

namespace Metrology

open Numeral

/-- A text with every run of `*` and every run of `/` reduced to one character. -/
def squeeze : List Char → List Char
  | [] => []
  | [c] => [c]
  | c :: d :: s =>
    if c = d && (c = '*' || c = '/') then squeeze (d :: s) else c :: squeeze (d :: s)

/-- A symbol with every run of `*` and every run of `/` reduced to one character. -/
def squeezed (symbol : String) : String :=
  String.ofList (squeeze symbol.toList)

/-- What a unit of measure is called and what it is worth. -/
structure Denomination where
  name : String
  symbol : String
  /-- How many coherent units of the dimension it is worth. -/
  factor : Float
  dimension : Dimension
  /-- Declared with a name and a symbol of its own. -/
  named : Bool

namespace Denomination

/-- A declared unit. -/
def declare (name symbol : String) (factor : Float) (dimension : Dimension) : Denomination :=
  ⟨name, squeezed symbol, factor, dimension, true⟩

/-- A unit made by algebra. -/
def derive (name symbol : String) (factor : Float) (dimension : Dimension) : Denomination :=
  ⟨name, squeezed symbol, factor, dimension, false⟩

/-- The unit of pure numbers. -/
def one : Denomination := declare "" "" 1.0 1

/-- The unit of a dimension with the factor 1, nameless. -/
def coherent (d : Dimension) : Denomination := derive "" "" 1.0 d

/-- A declared unit worth the same as another. -/
def rename (name symbol : String) (m : Denomination) : Denomination :=
  declare name symbol m.factor m.dimension

/-- The product of two units. -/
def mul (a b : Denomination) : Denomination :=
  derive s!"({a.name}*{b.name})" s!"{a.symbol}*{b.symbol}" (a.factor * b.factor)
    (a.dimension * b.dimension)

/-- The quotient of two units. -/
def div (a b : Denomination) : Denomination :=
  derive s!"({a.name}/{b.name})" s!"{a.symbol}/{b.symbol}" (quotient a.factor b.factor)
    (a.dimension / b.dimension)

/-- A whole power of a unit. -/
def pow (m : Denomination) (n : Int) : Denomination :=
  derive s!"({m.name}^{n})" s!"{m.symbol}^{n}" (wholePower m.factor n) (m.dimension ^ n)

/-- A multiple of a unit; `text` is how the scalar is written. -/
def multiple (text : String) (scalar : Float) (m : Denomination) : Denomination :=
  derive s!"({text}*{m.name})" s!"{text}*{m.symbol}" (scalar * m.factor) m.dimension

/-- A unit divided by a scalar. -/
def fraction (m : Denomination) (text : String) (scalar : Float) : Denomination :=
  derive s!"({m.name}/{text})" s!"{m.symbol}/{text}" (quotient m.factor scalar) m.dimension

/-- A scalar divided by a unit. -/
def reciprocal (text : String) (scalar : Float) (m : Denomination) : Denomination :=
  derive s!"({text}/{m.name})" s!"{text}/{m.symbol}" (quotient scalar m.factor)
    (m.dimension ^ (-1 : Int))

/-- `multiple` with the scalar written in plain notation. -/
def times (scalar : Float) (m : Denomination) : Denomination :=
  multiple (plainText scalar) scalar m

/-- Whether two units have the same dimension. -/
def compatible (a b : Denomination) : Bool :=
  a.dimension = b.dimension

/-- Whether two units have the same dimension and the same factor. -/
def agrees (a b : Denomination) : Bool :=
  a.factor == b.factor && a.compatible b

/-- The name for the format `UN`, the symbol for any other. -/
def format (m : Denomination) (format : String) : String :=
  if format = "UN" then m.name else m.symbol

/-- The value `amount` of one unit, in another unit of the same dimension. -/
def rescale (source target : Denomination) (amount : Float) : Float :=
  quotient (amount * source.factor) target.factor

end Denomination

/-- A unit of measure: a denomination under a serial number. -/
structure Measure extends Denomination where
  serial : Nat

instance : CoeOut Measure Denomination := ⟨Measure.toDenomination⟩

/-- Whether two units are one and the same. -/
def Measure.same (a b : Measure) : Bool :=
  a.serial == b.serial

/-- The unit of pure numbers, with the first serial number. -/
def Measure.one : Measure := { Denomination.one with serial := 0 }

/-- A unit that an operation answers: one that exists, or one still to be issued. -/
inductive Derived where
  | known (m : Measure)
  | fresh (d : Denomination)

/-- What a unit is called and worth, issued or not. -/
def Derived.denomination : Derived → Denomination
  | .known m => m.toDenomination
  | .fresh d => d

/-- A multiple of a unit by a scalar; once the unit is the unit itself. -/
def Derived.times (scalar : Float) (u : Derived) : Derived :=
  if scalar == 1.0 then u else .fresh (u.denomination.times scalar)

end Metrology
