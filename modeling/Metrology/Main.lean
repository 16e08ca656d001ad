import Metrology.Command.Run

/-!
# The program

Reads the settings from the environment, answers the arguments, and ends with the exit status of the
answer.
-/

open Metrology

/-- The variables that are set, with their values. -/
def readVariables : IO Environment :=
  Settings.variableNames.filterMapM fun name => do
    pure ((← IO.getEnv name).map fun value => (name, value))

/-- Print an outcome, and answer the exit status. -/
def printOutcome : Command.Outcome → IO UInt32
  | .usage => do
    IO.eprintln "Usage: amounts version | convert AMOUNT UNIT | parse EXPRESSION | units"
    pure 2
  | .answered status lines => do
    lines.forM IO.println
    pure (UInt32.ofNat status)
  | .failed _ => do
    IO.eprintln "The request has no answer."
    pure 1
  | .unprintable => do
    IO.eprintln "The answer cannot be printed."
    pure 1

def main (args : List String) : IO UInt32 := do
  let start := Session.start true (← readVariables)
  match (Command.run args).run start with
  | .ok outcome _ => printOutcome outcome
  | .error fault _ => printOutcome (.failed fault)
