import Metrology.Session.Lookup
import Metrology.Expression.Basic
import Metrology.Text.Whole

/-!
# Reading unit expressions

A term is looked up by name and then by symbol. Where neither is known, a whole power behind the
last caret is taken off and the rest, which is shorter, is looked up in its place. Empty terms are
found before any term is looked up.
-/

namespace Metrology

open Text

/-- A term without the whole power behind its last caret, and the power. -/
def powerSuffix? (term : List Char) : Option (List Char × Int) :=
  match cutLast? '^' term with
  | none => none
  | some (base, power) => if base.isEmpty then none else (whole? power).map fun n => (base, n)

theorem length_cutLast? {mark : Char} {s before after : List Char}
    (h : cutLast? mark s = some (before, after)) : before.length < s.length := by
  induction s generalizing before after with
  | nil => simp [cutLast?] at h
  | cons c s ih =>
    unfold cutLast? at h
    split at h
    · rename_i b a hs
      simp only [Option.some.injEq, Prod.mk.injEq] at h
      have := ih hs
      simp only [← h.1, List.length_cons]
      omega
    · split at h
      · simp only [Option.some.injEq, Prod.mk.injEq] at h
        simp [← h.1]
      · simp at h

/-- A base is shorter than its power, so taking powers off comes to an end. -/
theorem length_powerSuffix? {term base : List Char} {n : Int}
    (h : powerSuffix? term = some (base, n)) : base.length < term.length := by
  unfold powerSuffix? at h
  split at h
  · simp at h
  · rename_i b power hc
    split at h
    · simp at h
    · obtain ⟨_, _, heq⟩ := Option.map_eq_some_iff.1 h
      cases heq
      exact length_cutLast? hc

namespace Session

/-- The unit with a name, or else with a symbol. -/
def tryTerm (id : Nat) (term : String) : SessionM (Option Measure) := do
  match ← tryName id term with
  | some m => pure (some m)
  | none => trySymbol id term

/-- The unit that a term stands for. -/
def resolveTerm (id : Nat) (term : List Char) : SessionM Derived := do
  match ← tryTerm id (String.ofList term) with
  | some m => pure (.known m)
  | none =>
    match h : powerSuffix? term with
    | some (base, n) =>
      have := length_powerSuffix? h
      let u ← resolveTerm id base
      pure (.fresh (u.denomination.pow n))
    | none => throw (.unknownUnit .expression (String.ofList term))
termination_by term.length

/-- What a term stands for. A number needs no registry. -/
def operand (id : Option Nat) (t : Term) : SessionM Operand := do
  match Numeral.literal? t.text with
  | some l => pure (.number l.toFloat)
  | none => .unit <$> resolveTerm (← registryOr id) t.text

/-- The unit that an expression stands for. -/
def evaluate (id : Option Nat) (text : String) : SessionM Derived := do
  let e := Expression.ofText text
  if let some t := e.emptyTerm? then throw (.emptyTerm t.offset text)
  let head ← operand id e.head
  let tail ← e.tail.mapM fun (join, t) => do pure (join, ← operand id t)
  pure (Operand.evaluate head tail)

/-- Count a reading of a kind of text by its success. A fault that is not about the text is not
counted. -/
def countedParse {α : Type} (kind : ParseKind) (isAboutText : Fault → Bool) (reading : SessionM α) :
    SessionM α := do
  try
    let a ← reading
    count (.parse kind true)
    pure a
  catch fault => do
    if isAboutText fault then count (.parse kind false)
    throw fault

/-- Whether a fault is about the text of a unit expression. -/
def aboutExpression : Fault → Bool
  | .unknownUnit .. => true
  | .emptyTerm .. => true
  | _ => false

/-- Read a unit expression. The empty text stands for the unit of pure numbers. -/
def parseUnit (id : Option Nat) (text : String) : SessionM Measure := do
  if text.isEmpty then pure .one
  else
    let u ← countedParse .unit aboutExpression (evaluate id text)
    realize u

end Session

end Metrology
