import Metrology.Command.Terminal
import Metrology.Registry.Entries
import Metrology.Report.Explanation
import Metrology.Session.Quantity
import Metrology.Session.Reading

/-!
# Answering the command line

Every request is answered with an exit status and things to print. A fault that a report explains is
answered with the report's message; any other fault leaves no answer.
-/

namespace Metrology.Command

open Session

/-- The version of the program. -/
def version : String := "0.1.0"

/-- An answer to a request. -/
structure Answer where
  status : Nat := 0
  prints : List Print

/-- How a request was answered. -/
inductive Outcome where
  /-- The arguments are not well formed. -/
  | usage
  /-- The status and the lines of the answer. -/
  | answered (status : Nat) (lines : List String)
  /-- There is no answer. -/
  | failed (fault : Fault)
  /-- The answer has tags that do not fit together. -/
  | unprintable

/-- An answer as the terminal shows it. -/
def Answer.shown (t : Terminal) (a : Answer) : Outcome :=
  match a.prints.mapM t.lines with
  | some lines => .answered a.status lines.flatten
  | none => .unprintable

/-- A text in red, with which the program fails. -/
def Answer.ofMessage (message : String) : Answer where
  status := 1
  prints := [.tagged ("[red]" ++ message ++ "[/red]")]

/-- The answer to a fault. -/
def complaint (t : Terminal) (b : Basis) (f : Fault) : Outcome :=
  match f.report? b with
  | some r => (Answer.ofMessage r.message).shown t
  | none => .failed f

/-- The answer to a request for a conversion. -/
def convertAnswer (amount unit : String) (decimals : Option Int) (locale fmt : Option String) :
    SessionM Answer := do
  match ← parseQuantity amount locale none with
  | none => pure (.ofMessage "No amount given")
  | some q =>
    let target ← parseUnit none unit
    let r ← convertTo q (.unit target) decimals none
    pure { prints := [.plain (← format r fmt locale none none)] }

/-- The columns of the answer about a unit expression. -/
def propertyColumns : List Column :=
  [{ heading := "Property" }, { heading := "Value" }]

/-- The answer to a request about a unit expression. -/
def parseAnswer (expression : String) : SessionM Answer := do
  let m ← parseUnit none expression
  let known ← resolveNamed? (← standingRegistry) m
  let dimension := (← get).basis.describe m.dimension
  pure { prints := [.grid propertyColumns
    [["Name", m.name],
     ["Symbol", m.symbol],
     ["Factor", Numeral.text m.factor],
     ["Dimension", if dimension.isEmpty then "(none)" else dimension],
     ["Named unit", (known.map fun (u : Measure) => u.name).getD "-"]]] }

/-- The columns of the list of units. -/
def unitColumns : List Column :=
  [{ heading := "Name" }, { heading := "Symbol" }, { heading := "Factor", alignRight := true },
   { heading := "Dimension" }]

/-- The dimension of the unit that an option names. An empty name asks for no dimension. -/
def dimensionAsked : Option String → SessionM (Option Dimension)
  | none => pure none
  | some text => do
    if text.isEmpty then pure none
    else pure (some (← parseUnit none text).dimension)

/-- The answer to a request for the registered units. -/
def unitsAnswer (dimensionOf : Option String) : SessionM Answer := do
  let d ← dimensionAsked dimensionOf
  let r ← registry (← standingRegistry)
  let entries := r.unitEntries (← get).basis d
  let rows := entries.map fun e => [e.name, e.symbol, Numeral.text e.factor, e.dimensionText]
  pure { prints := [.grid unitColumns rows, .tagged s!"{entries.length} units"] }

/-- The answer to a request. -/
def answer : Request → SessionM Answer
  | .version => pure { prints := [.tagged ("[bold green]amounts v" ++ version ++ "[/bold green]")] }
  | .convert amount unit decimals locale fmt => convertAnswer amount unit decimals locale fmt
  | .parse expression => parseAnswer expression
  | .units dimensionOf => unitsAnswer dimensionOf

/-- Answer the arguments of a command line in a terminal. -/
def respond (t : Terminal) (args : List String) : SessionM Outcome := do
  match t.request args with
  | none => pure .usage
  | some request =>
    try pure ((← answer request).shown t)
    catch fault => do pure (complaint t (← get).basis fault)

end Metrology.Command
