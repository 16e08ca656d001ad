import Metrology.Command.Answer
import Metrology.Command.Grid
import Metrology.Command.Markup
import Metrology.Command.Request
import Metrology.Session.Standard

/-!
# Running the program

The terminal of the program: its lines have a bounded width, and what stands for a pictograph is
printed as one.
-/

namespace Metrology.Command

open Text

/-- The characters that are not printed. -/
def isControl (c : Char) : Bool :=
  ['\x07', '\x08', '\x0b', '\x0c', '\x0d'].contains c

/-- A text without the characters that are not printed. -/
def printed (s : String) : String :=
  String.ofList (s.toList.filter fun c => !isControl c)

/-- The width of the terminal in cells. -/
def terminalWidth : Nat := 400

/-- The lines of a text as broken for the terminal, without blanks at their ends. -/
def linesOf (s : String) : List String :=
  (wrapped terminalWidth true (printed s).toList).map fun line =>
    let line := if terminalWidth < cells line then clipped terminalWidth line else line
    String.ofList (trimEnd (· = ' ') line)

/-- The texts of the cells of a row. -/
def cellTexts? (row : List String) : Option (List String) :=
  row.mapM fun cell => (plainText? cell).map printed

/-- The lines that something is printed as. -/
def Print.lines : Print → Option (List String)
  | .tagged s => (plainText? s).map linesOf
  | .plain s => some (linesOf (String.ofList (withPictographs s.toList)))
  | .grid columns rows =>
    (rows.mapM cellTexts?).map (Command.grid terminalWidth columns)

/-- The terminal of the program. -/
def Terminal.standard : Terminal where
  request := Request.ofArguments
  lines := Print.lines

/-- Run the program with its arguments. -/
def run (args : List String) : SessionM Outcome :=
  respond .standard args

end Metrology.Command
