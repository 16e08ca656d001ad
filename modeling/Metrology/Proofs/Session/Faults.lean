import Metrology.Proofs.Expression.Reading
import Metrology.Proofs.Registry.Standard

/-!
# What reading fails with

Looking terms up never fails, so a unit expression that is not read has an empty term or a term that
stands for nothing (`failsOnly_parseUnit`). Reading a number fails with a fault of another kind, and
what the facilities refuse is neither about an expression nor about a number
(`failsOnly_readNumber`).
-/

namespace Metrology

open Text

/-- A fault about a unit expression is one of the first group. -/
theorem Fault.concernsUnits_of_aboutExpression {f : Fault} (h : Session.aboutExpression f = true) :
    f.concernsUnits = true := by
  cases f <;> first | rfl | cases h

theorem Refusal.not_aboutExpression (r : Refusal) : Session.aboutExpression r.fault = false :=
  Bool.eq_false_iff.2 fun h => by
    have hplain := r.plain
    rw [Fault.concernsUnits_of_aboutExpression h] at hplain
    cases hplain

namespace Session

open Expression

variable {α β : Type} {P : Fault → Prop}

theorem FailsOnly.map {x : SessionM α} (h : FailsOnly P x) (g : α → β) :
    FailsOnly P (g <$> x) := by
  rw [map_eq_pure_bind]
  exact h.bind fun _ => failsOnly_pure _

theorem FailsOnly.mapM {f : α → SessionM β} (h : ∀ a, FailsOnly P (f a)) (l : List α) :
    FailsOnly P (l.mapM f) := by
  induction l with
  | nil => exact failsOnly_pure []
  | cons a l ih =>
    rw [List.mapM_cons]
    exact (h a).bind fun _ => ih.bind fun _ => failsOnly_pure _

theorem FailsOnly.countedParse {x : SessionM α} (h : FailsOnly P x) (kind : ParseKind)
    (isAboutText : Fault → Bool) : FailsOnly P (countedParse kind isAboutText x) := by
  intro s f t hrun
  cases hx : x.run s with
  | ok a u =>
    rw [run_countedParse_of_ok hx] at hrun
    cases hrun
  | error e u =>
    cases he : isAboutText e with
    | true =>
      rw [run_countedParse_of_error hx kind isAboutText he] at hrun
      cases hrun
      exact h s _ _ hx
    | false =>
      rw [run_countedParse_of_not_about hx kind isAboutText he] at hrun
      cases hrun
      exact h s _ _ hx

theorem failsOnly_registryOr (o : Option Nat) : FailsOnly P (registryOr o) := by
  cases o with
  | some id => exact failsOnly_pure id
  | none => exact failsOnly_standingRegistry

theorem failsOnly_issue (d : Denomination) : FailsOnly P (issue d) := by
  intro s f t h
  cases h

theorem failsOnly_realize (u : Derived) : FailsOnly P (realize u) := by
  cases u with
  | known m => exact failsOnly_pure m
  | fresh d => exact failsOnly_issue d

/-! ## Unit expressions -/

theorem failsOnly_consultAll (name : String) (rs : List Resolver) :
    FailsOnly P (consultAll name rs) := by
  have hconsult (a : Resolver) : FailsOnly P (consult name a) := by
    refine (failsOnly_note _).bind fun _ => ?_
    split
    · exact failsOnly_pure _
    · exact failsOnly_pure _
    · exact FailsOnly.map (failsOnly_issue _) some
  induction rs with
  | nil => exact failsOnly_pure none
  | cons a rs ih =>
    refine (hconsult a).bind fun found => ?_
    cases found with
    | some m => exact failsOnly_pure _
    | none => exact ih

theorem failsOnly_tryTerm (id : Nat) (term : String) : FailsOnly P (tryTerm id term) := by
  have hcount (e : Event) (found : Option Measure) : FailsOnly P (do count e; pure found) :=
    (failsOnly_modify _).bind fun _ => failsOnly_pure _
  -- resolvers answer or pass, so looking a name up does not fail
  have hname : FailsOnly P (tryName id term) := by
    refine (failsOnly_get.bind fun _ => failsOnly_pure _).bind fun r => ?_
    split
    · exact hcount _ _
    · refine (failsOnly_consultAll term _).bind fun found => ?_
      cases found with
      | some m => exact (total_register id m).failsOnly.bind fun _ => hcount _ _
      | none => exact hcount _ _
  refine hname.bind fun found => ?_
  cases found with
  | some m => exact failsOnly_pure _
  | none =>
    exact (failsOnly_get.bind fun _ => failsOnly_pure _).bind fun _ => hcount _ _

/-- A term that is looked up is at worst unknown. -/
theorem failsOnly_resolveTerm (hP : ∀ key, P (.unknownUnit .expression key)) (id : Nat)
    (term : List Char) : FailsOnly P (resolveTerm id term) := by
  -- the term gets shorter with every power that is taken off
  induction hn : term.length using Nat.strongRecOn generalizing term with
  | ind n ih =>
    rw [resolveTerm]
    refine (failsOnly_tryTerm id _).bind fun found => ?_
    cases found with
    | some m => exact failsOnly_pure _
    | none =>
      dsimp only
      split
      · rename_i base power h
        exact (ih base.length (hn ▸ length_powerSuffix? h) base rfl).bind fun _ =>
          failsOnly_pure _
      · exact failsOnly_throw (hP _)

theorem failsOnly_operand (hP : ∀ key, P (.unknownUnit .expression key)) (o : Option Nat)
    (t : Term) : FailsOnly P (operand o t) := by
  unfold operand
  split
  · exact failsOnly_pure _
  · exact (failsOnly_registryOr o).bind fun id =>
      FailsOnly.map (failsOnly_resolveTerm hP id _) Operand.unit

/-- Without empty terms, a text that is not read has an unknown term. -/
theorem failsOnly_evaluate (hP : ∀ key, P (.unknownUnit .expression key)) (o : Option Nat)
    {text : String} (h : (Expression.ofText text).emptyTerm? = none) :
    FailsOnly P (evaluate o text) := by
  unfold evaluate
  dsimp only
  rw [h]
  refine (failsOnly_operand hP o _).bind fun head => ?_
  refine (FailsOnly.mapM (fun x => ?_) _).bind fun tail => failsOnly_pure _
  exact (failsOnly_operand hP o x.2).bind fun _ => failsOnly_pure _

/-- A unit expression that is not read is reported for one of its terms. -/
theorem failsOnly_parseUnit (o : Option Nat) (text : String) :
    FailsOnly (fun f => aboutExpression f = true) (parseUnit o text) := by
  by_cases htext : text = ""
  · subst htext
    exact failsOnly_pure _
  · rw [parseUnit_of_ne htext]
    have hevaluate : FailsOnly (fun f => aboutExpression f = true) (evaluate o text) := by
      cases hterm : (Expression.ofText text).emptyTerm? with
      | some term =>
        intro s f t hrun
        rw [run_evaluate_of_emptyTerm hterm] at hrun
        cases hrun
        rfl
      | none => exact failsOnly_evaluate (fun _ => rfl) o hterm
    exact (hevaluate.countedParse _ _).bind failsOnly_realize

/-! ## Numbers -/

theorem failsOnly_granted (h : ∀ r : Refusal, P r.fault) (a : Except Refusal α) :
    FailsOnly P (granted a) := by
  cases a with
  | ok a => exact failsOnly_pure a
  | error r => exact failsOnly_throw (h r)

theorem failsOnly_currentFacilities : FailsOnly P currentFacilities :=
  failsOnly_get.bind fun _ => failsOnly_pure _

theorem failsOnly_localeOf (h : ∀ r : Refusal, P r.fault) (locale : Option String) :
    FailsOnly P (localeOf locale) := by
  have hnamed : ∀ i : String, FailsOnly P (localeNamed i) := fun i =>
    failsOnly_currentFacilities.bind fun f => failsOnly_granted h (f.numerals.locale _)
  cases locale with
  | some i => exact hnamed i
  | none => exact failsOnly_currentSettings.bind fun settings => hnamed settings.defaultLocale

/-- A text that is no number is reported as such, and all else that a number is not read for is a
refusal. -/
theorem failsOnly_readNumber (h : ∀ r : Refusal, P r.fault)
    (hnumber : ∀ text seen cause, P (.badNumber text seen cause)) (text : String)
    (locale : Option String) : FailsOnly P (readNumber text locale) := by
  refine (failsOnly_localeOf h locale).bind fun l => failsOnly_currentFacilities.bind fun f => ?_
  split
  · exact failsOnly_pure _
  · exact failsOnly_throw (hnumber _ _ _)
  · exact failsOnly_throw (h _)

end Session

end Metrology
