import Metrology.Command.Terminal
import Metrology.Numeral.Rounding
import Metrology.Text.Lines

/-!
# Grids

Rows of cells between box-drawing characters, below a row of headings. A column is as wide as the
longest line in it, with one blank on either side. Where the grid is wider than the terminal, the
widest columns are made narrower: their lines are broken between words, and a word that does not fit
ends with an ellipsis.
-/

namespace Metrology.Command

open Text

/-- A horizontal line of a grid: the ends, the crossings and what the line is drawn with. -/
structure Rule where
  left : String
  crossing : String
  right : String
  stroke : Char

/-- The lines above the headings, below them and below the last row. -/
def topRule : Rule := ⟨"┏", "┳", "┓", '━'⟩
def headingRule : Rule := ⟨"┡", "╇", "┩", '━'⟩
def bottomRule : Rule := ⟨"└", "┴", "┘", '─'⟩

/-- A line drawn over columns of the given widths. -/
def Rule.draw (r : Rule) (widths : List Nat) : String :=
  let strokes := widths.map fun w => String.ofList (List.replicate w r.stroke)
  r.left ++ joined r.crossing strokes ++ r.right

/-! ## Widths -/

/-- The blanks on both sides of a cell. -/
def cellMargin : Nat := 2

/-- The characters that end a line where the width of a text is measured. -/
def lineEnds : List Char :=
  ['\n', '\x1c', '\x1d', '\x1e', '\x85', '\u2028', '\u2029']

/-- The width of the longest line of a text. -/
def textWidth (s : List Char) : Nat :=
  let lines := pieces '\n' (s.map fun c => if lineEnds.contains c then '\n' else c)
  lines.foldl (fun w line => max w (cells line)) 0

/-- The width of a column: that of the longest line in it, but at most a given one. -/
def columnWidth (available : Nat) (texts : List (List Char)) : Nat :=
  min available (texts.foldl (fun w s => max w (textWidth s)) 0 + cellMargin)

/-- The widest columns, `count` of them, made narrower by `excess` cells in all, but each by at most
`limit`. -/
def shaved (widest limit excess count : Nat) : List Nat → List Nat
  | [] => []
  | w :: ws =>
    if w = widest then
      let cut := min limit (Numeral.roundQuotient excess count)
      (w - cut) :: shaved widest limit (excess - cut) (count - 1) ws
    else w :: shaved widest limit excess count ws

/-- Widths whose sum is at most the given one. In every pass the widest columns come down, at most
to the width of the next ones; there are at most as many passes as columns. -/
def narrowed (available : Nat) : Nat → List Nat → List Nat
  | 0, ws => ws
  | passes + 1, ws =>
    let excess := ws.foldl (· + ·) 0 - available
    if excess = 0 then ws
    else
      let widest := ws.foldl max 0
      let next := (ws.filter (· ≠ widest)).foldl max 0
      narrowed available passes
        (shaved widest (min excess (widest - next)) excess (ws.count widest) ws)

/-- The widths of columns in a terminal of the given width. -/
def columnWidths (terminal : Nat) (columns : List (List (List Char))) : List Nat :=
  let available := terminal - (columns.length + 1)
  narrowed available columns.length (columns.map (columnWidth available))

/-! ## Drawing -/

/-- A line of a cell cut to a width, with an ellipsis in the last place. -/
def shortened (width : Nat) (s : List Char) : List Char :=
  if width < cells s then clipped (width - 1) s ++ ['…'] else s

/-- A line of a cell filled up to a width, on the side that the column asks for. -/
def Column.align (c : Column) (width : Nat) (s : List Char) : List Char :=
  if c.alignRight then
    let s := shortened width (trimEnd isSpace s)
    blanks (width - cells s) ++ s
  else padCells width (shortened width s)

/-- The lines of a cell in a column of the given width. -/
def Column.cellLines (c : Column) (width : Nat) (s : List Char) : List (List Char) :=
  let inner := width - cellMargin
  (wrapped inner false s).map fun line => ' ' :: c.align inner line ++ [' ']

/-- The lines of a row of cells between upright strokes; a cell with fewer lines than another one
has empty lines below. -/
def drawRow (stroke : String) (columns : List Column) (widths : List Nat)
    (texts : List (List Char)) : List String :=
  let drawn := (columns.zip (widths.zip texts)).map fun (c, width, s) =>
    (width, c.cellLines width s)
  let height := drawn.foldl (fun h cell => max h cell.2.length) 1
  (List.range height).map fun i =>
    let cells := drawn.map fun (width, lines) => String.ofList (lines.getD i (blanks width))
    stroke ++ joined stroke cells ++ stroke

/-- The lines of a grid in a terminal of the given width. -/
def grid (terminal : Nat) (columns : List Column) (rows : List (List String)) : List String :=
  let headings := columns.map fun c => c.heading.toList
  let rows := rows.map fun row => row.map String.toList
  let texts := (List.range columns.length).map fun i =>
    (headings :: rows).map fun row => row.getD i []
  let widths := columnWidths terminal texts
  topRule.draw widths :: drawRow "┃" columns widths headings ++ headingRule.draw widths
    :: rows.flatMap (drawRow "│" columns widths) ++ [bottomRule.draw widths]

end Metrology.Command
