import Metrology.Text.Search
import Metrology.Text.Width

/-!
# Breaking text into lines

A paragraph is broken between words so that its lines fit into a width in cells. A word stays with
the white space behind it. A word that is wider than a line begins a line of its own, and is either
folded over as many lines as it needs or left to be cut.
-/

namespace Metrology.Text

/-- The distance of the places that a tabulator leads to. -/
def tabStop : Nat := 8

/-- A text with blanks for its tabulators, beginning in the given cell. -/
def expandTabs (used : Nat) : List Char → List Char
  | [] => []
  | c :: s =>
    if c = '\t' then
      let n := tabStop - used % tabStop
      blanks n ++ expandTabs (used + n) s
    else c :: expandTabs (used + cell c) s

/-- The words of a text, each with the white space behind it, and the first with that before it,
too. -/
def words (s : List Char) : List (List Char) :=
  match s.splitBy fun a b => !isSpace a || isSpace b with
  | first :: rest =>
    if first.all isSpace then
      match rest with
      | second :: rest => (first ++ second) :: rest
      | [] => []
    else first :: rest
  | [] => []

/-- A word cut into pieces that fit into a width in cells. `used` cells are taken already. -/
def folded (width used : Nat) : List Char → List (List Char)
  | [] => [[]]
  | c :: s =>
    if width < used + cell c then
      match folded width (cell c) s with
      | piece :: rest => [] :: (c :: piece) :: rest
      | [] => [[], [c]]
    else
      match folded width (used + cell c) s with
      | piece :: rest => (c :: piece) :: rest
      | [] => [[c]]

/-- Lines being filled: those that are finished, the last one first, and the one that the next word
comes to, with the cells taken in it. -/
structure Filling where
  finished : List (List Char) := []
  line : List Char := []
  used : Nat := 0

namespace Filling

/-- A new line with a text in it. -/
def startLine (f : Filling) (s : List Char) : Filling where
  finished := if f.line.isEmpty then f.finished else f.line :: f.finished
  line := s
  used := cells s

/-- A further word. The white space behind it need not fit. -/
def add (width : Nat) (fold : Bool) (f : Filling) (word : List Char) : Filling :=
  let size := cells (trimEnd isSpace word)
  if f.used + size ≤ width then
    { f with line := f.line ++ word, used := f.used + cells word }
  else if fold && width < size then (folded width 0 word).foldl startLine f
  else f.startLine word

/-- All lines in order. -/
def lines (f : Filling) : List (List Char) :=
  (f.line :: f.finished).reverse

end Filling

/-- A line without the white space at its end that stands beyond a width in characters. -/
def withoutExcess (width : Nat) (s : List Char) : List Char :=
  let excess := s.length - width
  let space := s.length - (trimEnd isSpace s).length
  s.take (s.length - min excess space)

/-- The lines of a paragraph for a width in cells. -/
def paragraph (width : Nat) (fold : Bool) (s : List Char) : List (List Char) :=
  let s := if s.contains '\t' then expandTabs 0 s else s
  let lines := match words s with
    | [] => [s]
    | ws => (ws.foldl (Filling.add width fold) {}).lines
  lines.map (withoutExcess width)

/-- The lines of a text, which has paragraphs that end with the line. -/
def wrapped (width : Nat) (fold : Bool) (s : List Char) : List (List Char) :=
  (pieces '\n' s).flatMap (paragraph width fold)

end Metrology.Text
