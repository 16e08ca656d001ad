import Metrology.Session.Format

/-!
# Reading quantities

The text of a quantity is a number, and behind the first blank a unit expression that may stand in
parentheses and may end with ` neg`, inside or outside of them, which turns the sign around.
-/

namespace Metrology

open Text Numeral

/-- A unit text without the parentheses around it, and whether it ended with ` neg`. -/
def unitPart (s : List Char) : List Char × Bool :=
  let s := (dropStart? ['('] s).getD s
  let s := (dropEnding? [')'] s).getD s
  match dropEnding? [' ', 'n', 'e', 'g'] s with
  | none => (s, false)
  | some s => ((dropEnding? [')'] s).getD s, true)

namespace Session

/-- The number that a text is in a locale, whatever white space stands around it. -/
def readNumber (text : String) (locale : Option String) : SessionM Float := do
  let l ← localeOf locale
  match (← currentFacilities).numerals.read l (String.ofList (trim isSpace text.toList)) with
  | .ok x => pure x
  | .error (.noNumber seen cause) => throw (.badNumber text seen cause)
  | .error (.refused r) => throw r.fault

/-- The quantity that a text is. -/
def readQuantity (text : String) (locale : Option String) (id : Option Nat) :
    SessionM Quantity := do
  match cutFirst? ' ' text.toList with
  | none => do quantity (← readNumber text locale) .one
  | some (number, unit) =>
    let value ← readNumber (String.ofList number) locale
    let (unit, negative) := unitPart unit
    let unit ← parseUnit id (String.ofList unit)
    quantity (if negative then -value else value) unit

/-- Whether a fault is about the text of a quantity. -/
def aboutQuantity : Fault → Bool
  | .badNumber .. => true
  | fault => aboutExpression fault

/-- Read a quantity; there is none in the empty text. -/
def parseQuantity (text : String) (locale : Option String) (id : Option Nat) :
    SessionM (Option Quantity) := do
  if text.isEmpty then pure none
  else some <$> countedParse .amount aboutQuantity (readQuantity text locale id)

end Session

end Metrology
