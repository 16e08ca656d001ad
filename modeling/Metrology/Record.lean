import Metrology.Numeral.Reader
import Metrology.Text.Order

/-!
# Records

Values of any kind under the names of fields, and reading them. A field takes the values of its kind
and those that can be read as one without loss; every flaw of every field is told, not only the
first.
-/

namespace Metrology

open Numeral

/-- A value of any kind. -/
inductive Raw where
  | nothing
  | truth (b : Bool)
  | whole (n : Int)
  | real (x : Float)
  | text (s : String)
  | sequence
  | table (entries : List (String × Raw))
deriving Inhabited

/-- What is wrong with a field. -/
inductive Flaw where
  | absent
  | superfluous
  | noText
  | noReal
  | unreadableReal
  | noWhole
  | fractional
  | unreadableWhole
  | negative
  | noTruth
  | unreadableTruth
  | noTable
  /-- The field was to be replaced in an entry that does not change. -/
  | fixed
deriving DecidableEq, Repr

/-- The label of a flaw. -/
def Flaw.label : Flaw → String
  | absent => "missing"
  | superfluous => "extra_forbidden"
  | noText => "string_type"
  | noReal => "float_type"
  | unreadableReal => "float_parsing"
  | noWhole => "int_type"
  | fractional => "int_from_float"
  | unreadableWhole => "int_parsing"
  | negative => "greater_than_equal"
  | noTruth => "bool_type"
  | unreadableTruth => "bool_parsing"
  | noTable => "dict_type"
  | fixed => "frozen_instance"

/-- Flaws with the names of their fields. -/
abbrev Flaws := List (String × Flaw)

/-- The flaws as rows of field and label, in their order. -/
def Flaws.rows (flaws : Flaws) : List (List String) :=
  Text.sortedRows (flaws.map fun f => [f.1, f.2.label])

/-- A value, or everything that is wrong with it. -/
inductive Checked (α : Type) where
  | ok (a : α)
  | flawed (flaws : Flaws)

namespace Checked

/-- Two checked values together: all flaws of both, or what the function makes of the values. -/
def both {α β : Type} : Checked (α → β) → Checked α → Checked β
  | ok f, ok a => ok (f a)
  | ok _, flawed fs => flawed fs
  | flawed fs, ok _ => flawed fs
  | flawed fs, flawed gs => flawed (fs ++ gs)

/-- Further flaws in front of those of a value. -/
def hindered {α : Type} (flaws : Flaws) : Checked α → Checked α
  | ok _ => flawed flaws
  | flawed others => flawed (flaws ++ others)

instance : Applicative Checked where
  pure := ok
  seq f a := both f (a ())

end Checked

namespace Raw

/-- A text. -/
def readText : Raw → Except Flaw String
  | text s => .ok s
  | _ => .error .noText

/-- A number: a real or whole one, truth as 1 or 0, or a text that is a number. -/
def readReal : Raw → Except Flaw Float
  | real x => .ok x
  | whole n =>
    match ofWhole? n with
    | some x => .ok x
    | none => .error .noReal
  | truth b => .ok (if b then 1.0 else 0.0)
  | text s =>
    match float? s.toList with
    | some x => .ok x
    | none => .error .unreadableReal
  | _ => .error .noReal

/-- The whole number that a text in ASCII stands for; zeros behind a point do not count. -/
def wholeText? (s : List Char) : Option Int :=
  let s := Text.trim Text.isBlank s
  let digits := match Text.cutFirst? '.' s with
    | some (before, zeros) => if zeros.all (· = '0') then before else s
    | none => s
  if digits.all fun c => c.toNat < 0x80 then Text.whole? digits else none

/-- A whole number: one, a real one without a fraction, truth as 1 or 0, or a text that is one. -/
def readWhole : Raw → Except Flaw Int
  | whole n => .ok n
  | truth b => .ok (if b then 1 else 0)
  | real x =>
    match truncate? x with
    | some n => if ofWhole? n == some x then .ok n else .error .fractional
    | none => .error .fractional
  | text s =>
    match wholeText? s.toList with
    | some n => .ok n
    | none => .error .unreadableWhole
  | _ => .error .noWhole

/-- A whole number that is not negative. -/
def readCount (r : Raw) : Except Flaw Int := do
  let n ← r.readWhole
  if n < 0 then .error .negative else .ok n

/-- The words for truth and for falsehood. -/
def readWord (s : String) : Except Flaw Bool :=
  let word := lowered s.toList
  if ["1", "on", "t", "true", "y", "yes"].contains word then .ok true
  else if ["0", "off", "f", "false", "n", "no"].contains word then .ok false
  else .error .unreadableTruth

/-- A truth value: one, the numbers 1 and 0, or a word for one. -/
def readTruth : Raw → Except Flaw Bool
  | truth b => .ok b
  | text s => readWord s
  | r =>
    match r.readWhole with
    | .ok 1 => .ok true
    | .ok 0 => .ok false
    | .ok _ => .error .unreadableTruth
    | .error _ => .error .noTruth

/-- Whole numbers by name. -/
def readTable (field : String) : Raw → Checked (List (String × Int))
  | table entries =>
    entries.foldr
      (fun (name, r) rest =>
        match r.readWhole with
        | .ok n => List.cons (name, n) <$> rest
        | .error flaw => rest.hindered [(field ++ "." ++ name, flaw)])
      (pure [])
  | _ => .flawed [(field, .noTable)]

end Raw

/-- Values by the names of their fields. -/
abbrev Fields := List (String × Raw)

namespace Fields

/-- A field that must be there. -/
def required {α : Type} (fs : Fields) (name : String) (read : Raw → Except Flaw α) : Checked α :=
  match fs.lookup name with
  | none => .flawed [(name, .absent)]
  | some r =>
    match read r with
    | .ok a => .ok a
    | .error flaw => .flawed [(name, flaw)]

/-- A field with a value for its absence. -/
def optional {α : Type} (fs : Fields) (name : String) (absent : α) (read : Raw → Except Flaw α) :
    Checked α :=
  if (fs.lookup name).isSome then fs.required name read else pure absent

/-- A table that may be absent. -/
def table (fs : Fields) (name : String) : Checked (List (String × Int)) :=
  match fs.lookup name with
  | none => pure []
  | some r => r.readTable name

/-- A value, provided that there are no fields but the named ones. -/
def within {α : Type} (fs : Fields) (names : List String) (value : Checked α) : Checked α :=
  let others := fs.filter fun f => !names.contains f.1
  if others.isEmpty then value else value.hindered (others.map fun f => (f.1, .superfluous))

end Fields

/-- Whole numbers by name, as a value. -/
def Raw.ofWholes (entries : List (String × Int)) : Raw :=
  .table (entries.map fun (name, n) => (name, .whole n))

end Metrology
