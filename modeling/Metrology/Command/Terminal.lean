/-!
# The terminal

What the program is asked for, and what it prints in answer. How the arguments of a command line
make a request, and how texts and grids become lines, is up to the terminal that the program runs
in.
-/

namespace Metrology.Command

/-- What the program is asked for. -/
inductive Request where
  | version
  | convert (amount unit : String) (decimals : Option Int) (locale format : Option String)
  | parse (expression : String)
  | units (dimensionOf : Option String)
deriving DecidableEq, Repr

/-- A column of a grid. -/
structure Column where
  heading : String
  alignRight : Bool := false

/-- Something to print. -/
inductive Print where
  /-- A text in which tags in square brackets stand for styles. -/
  | tagged (s : String)
  /-- A text as it is. -/
  | plain (s : String)
  /-- Rows of cells, in which tags count, below a row of headings. -/
  | grid (columns : List Column) (rows : List (List String))

/-- The terminal that the program runs in. -/
structure Terminal where
  /-- The request that arguments make; `none` where they are not well formed. -/
  request : List String → Option Request
  /-- The lines that something is printed as; `none` where its tags do not fit together. -/
  lines : Print → Option (List String)

end Metrology.Command
