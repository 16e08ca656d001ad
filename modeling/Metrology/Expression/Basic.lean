import Metrology.Measure.Basic
import Metrology.Numeral.Reader

/-!
# Unit expressions

A unit expression such as `km/h` or `(1000*Kg)` is a sequence of terms joined by `*` and `/`. One
parenthesis at either end does not count, and neither do repeated operators. A term that is a
decimal literal is a number, any other term stands for a unit. The parts are evaluated from left to
right, except that a number in front multiplies the final result.
-/

namespace Metrology

open Text

/-- How a term is joined to what stands before it. -/
inductive Join where
  | times
  | per
deriving DecidableEq, Repr

/-- A term with its offset in the expression. -/
structure Term where
  text : List Char
  offset : Nat
deriving DecidableEq

/-- A sequence of terms. -/
structure Expression where
  head : Term
  tail : List (Join × Term)
deriving DecidableEq

/-- The operator that a character is. -/
def Join.ofChar? (c : Char) : Option Join :=
  if c = '*' then some .times else if c = '/' then some .per else none

namespace Expression

/-- A text without a parenthesis at its beginning and one at its end, and without repeated
operators. -/
def normalize (s : List Char) : List Char :=
  let s := (dropStart? ['('] s).getD s
  squeeze ((dropEnding? [')'] s).getD s)

/-- The terms of a normalized text that begins at an offset. -/
def ofChars (offset : Nat) : List Char → Expression
  | [] => ⟨⟨[], offset⟩, []⟩
  | c :: s =>
    match Join.ofChar? c with
    | some join =>
      let rest := ofChars (offset + 1) s
      ⟨⟨[], offset⟩, (join, rest.head) :: rest.tail⟩
    | none =>
      let rest := ofChars (offset + 1) s
      ⟨⟨c :: rest.head.text, offset⟩, rest.tail⟩

/-- The terms of a text. -/
def ofText (text : String) : Expression :=
  ofChars 0 (normalize text.toList)

/-- The terms in order. -/
def terms (e : Expression) : List Term :=
  e.head :: e.tail.map (·.2)

/-- The first term that holds nothing but white space. -/
def emptyTerm? (e : Expression) : Option Term :=
  e.terms.find? fun t => isVacant t.text

end Expression

/-- What a term stands for: a number or a unit. -/
inductive Operand where
  | number (x : Float)
  | unit (u : Derived)

namespace Operand

/-- A number as the multiple of the unit of pure numbers. -/
def toUnit : Operand → Derived
  | .number x => (Derived.known .one).times x
  | .unit u => u

/-- What stands before, multiplied or divided by an operand. -/
def joined (u : Derived) : Join → Operand → Derived
  | .times, .number x => u.times x
  | .times, .unit v => .fresh (u.denomination.mul v.denomination)
  | .per, .number x => .fresh (u.denomination.fraction (Numeral.plainText x) x)
  | .per, .unit v => .fresh (u.denomination.div v.denomination)

/-- The first join behind a number in front: the number itself does not take part. -/
def opened : Join → Operand → Derived
  | .times, x => x.toUnit
  | .per, x => joined (.known .one) .per x

/-- The unit that operands joined from left to right make. A single number is a multiple of the
unit of pure numbers; a number in front of others multiplies their result. -/
def evaluate : Operand → List (Join × Operand) → Derived
  | x, [] => x.toUnit
  | .number k, (join, x) :: rest =>
    (rest.foldl (fun u step => joined u step.1 step.2) (opened join x)).times k
  | .unit u, rest => rest.foldl (fun u step => joined u step.1 step.2) u

end Operand

end Metrology
