/-!
# The order of texts

Texts are ordered by the code points of their characters, and rows of texts by the first text in
which they differ.
-/

namespace Metrology.Text

/-- Whether a list stands at or before another by the first entry in which they differ; the
beginning of a list stands before the list. -/
def upTo {α : Type} [DecidableEq α] (before : α → α → Bool) : List α → List α → Bool
  | [], _ => true
  | _ :: _, [] => false
  | a :: as, b :: bs => if a = b then upTo before as bs else before a b

/-- The code points of a text. -/
def codePoints (s : String) : List Nat := s.toList.map Char.toNat

/-- Whether a text stands before another. -/
def textBefore (s t : String) : Bool :=
  s != t && upTo Nat.blt (codePoints s) (codePoints t)

/-- Rows of texts in their order. -/
def sortedRows (rows : List (List String)) : List (List String) :=
  rows.mergeSort (upTo textBefore)

end Metrology.Text
