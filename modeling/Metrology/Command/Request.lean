import Metrology.Command.Terminal
import Metrology.Text.Search
import Metrology.Text.Whole

/-!
# Arguments of the command line

One of four commands with options and positional arguments in any order. An option has its value in
the next argument, behind an equals sign, or, with its short name, right behind the name; the
argument `--` ends the options.
-/

namespace Metrology.Command

open Text

/-- An option that takes a value. -/
structure Switch where
  long : String
  short : Option Char := none

/-- What an argument is. -/
inductive Role where
  | positional
  /-- An option with its value. -/
  | valued (name value : String)
  /-- An option whose value is the next argument. -/
  | pending (name : String)
  | unknown
deriving DecidableEq

/-- The role of an argument that begins with a short name. -/
def shortRole (options : List Switch) : List Char → Role
  | [] => .positional
  | c :: value =>
    match options.find? fun o => o.short = some c with
    | none => .unknown
    | some o => if value.isEmpty then .pending o.long else .valued o.long (String.ofList value)

/-- The role of an argument that begins with a hyphen. -/
def optionRole (options : List Switch) (arg : List Char) : Role :=
  let (name, value) := match cutFirst? '=' arg with
    | some (name, value) => (name, some value)
    | none => (arg, none)
  match options.find? fun o => o.long.toList = name, value with
  | some o, some value => .valued o.long (String.ofList value)
  | some o, none => .pending o.long
  | none, _ => if arg.take 2 = ['-', '-'] then .unknown else shortRole options (arg.drop 1)

/-- The role of an argument. -/
def role (options : List Switch) (arg : String) : Role :=
  match arg.toList with
  | '-' :: c :: rest => optionRole options ('-' :: c :: rest)
  | _ => .positional

/-- Arguments sorted into options with their values and the others. -/
structure Scan where
  options : List (String × String) := []
  positional : List String := []

namespace Scan

/-- The value of an option, the last one if it is repeated. -/
def value? (s : Scan) (name : String) : Option String :=
  s.options.reverse.lookup name

/-- Sort arguments; `none` where an option is unknown or lacks its value. -/
def ofArguments (options : List Switch) : List String → Option Scan
  | [] => some {}
  | arg :: rest =>
    if arg = "--" then some { positional := rest }
    else
      match role options arg, rest with
      | .unknown, _ => none
      | .positional, rest =>
        (ofArguments options rest).map fun s => { s with positional := arg :: s.positional }
      | .valued name value, rest =>
        (ofArguments options rest).map fun s => { s with options := (name, value) :: s.options }
      | .pending _, [] => none
      | .pending name, value :: rest =>
        (ofArguments options rest).map fun s => { s with options := (name, value) :: s.options }

/-- The whole number that is the value of an option, if the option is there; `none` where the value
is no whole number. -/
def whole? (s : Scan) (name : String) : Option (Option Int) :=
  match s.value? name with
  | none => some none
  | some text => (Text.whole? text.toList).map some

end Scan

namespace Request

/-- The options of the command `convert`. -/
def convertOptions : List Switch :=
  [{ long := "--decimals", short := some 'd' }, { long := "--locale", short := some 'l' },
   { long := "--format", short := some 'f' }]

/-- The request for a conversion. -/
def ofConvertScan (s : Scan) : Option Request :=
  match s.positional, s.whole? "--decimals" with
  | [amount, unit], some decimals =>
    some (.convert amount unit decimals (s.value? "--locale") (s.value? "--format"))
  | _, _ => none

/-- The request that a command makes with its arguments. -/
def ofCommand : String → List String → Option Request
  | "version", args =>
    match Scan.ofArguments [] args with
    | some ⟨_, []⟩ => some .version
    | _ => none
  | "convert", args => (Scan.ofArguments convertOptions args).bind ofConvertScan
  | "parse", args =>
    match Scan.ofArguments [] args with
    | some ⟨_, [expression]⟩ => some (.parse expression)
    | _ => none
  | "units", args =>
    match Scan.ofArguments [{ long := "--dimension-of" }] args with
    | some ⟨options, []⟩ => some (.units (Scan.value? ⟨options, []⟩ "--dimension-of"))
    | _ => none
  | _, _ => none

/-- The request that arguments make; `none` where they are not well formed. -/
def ofArguments : List String → Option Request
  | "--" :: command :: args => ofCommand command args
  | command :: args => ofCommand command args
  | [] => none

end Request

end Metrology.Command
