import Metrology.Session.Operator
import Metrology.Proofs.Measure.Squeezing
import Metrology.Proofs.Session.Frame
import Metrology.Session.Registration
import Metrology.Session.Standard

/-!
# The symbols of units

Every unit that is declared, or that algebra makes, has a symbol that was squeezed when it was
issued. So no operator stands twice in a row in the symbol of a unit that can be come by
(`squeezed_of_runs`), however it was made.
-/

namespace Metrology

/-- The symbol of a unit has no operator twice in a row. -/
def Denomination.Squeezed (d : Denomination) : Prop :=
  squeeze d.symbol.toList = d.symbol.toList

namespace Denomination

theorem toList_squeezed (symbol : String) : (squeezed symbol).toList = squeeze symbol.toList :=
  String.toList_ofList

/-- A declared unit has a squeezed symbol. -/
theorem squeezed_declare (name symbol : String) (factor : Float) (dimension : Dimension) :
    (declare name symbol factor dimension).Squeezed := by
  show squeeze (Metrology.squeezed symbol).toList = (Metrology.squeezed symbol).toList
  rw [toList_squeezed, squeeze_squeeze]

/-- A derived unit has a squeezed symbol. -/
theorem squeezed_derive (name symbol : String) (factor : Float) (dimension : Dimension) :
    (derive name symbol factor dimension).Squeezed :=
  squeezed_declare name symbol factor dimension

/-- A squeezed symbol holds no operator twice in a row. -/
theorem Squeezed.not_doubled {d : Denomination} (h : d.Squeezed) {c : Char}
    (hc : Join.isOperator c = true) : ¬[c, c] <:+: d.symbol.toList :=
  h ▸ not_infix_squeeze hc d.symbol.toList

end Denomination

namespace Session

variable {α : Type} {s t : Session} {m : Measure}

/-- A unit that can be come by: the unit of pure numbers, a unit that is declared in some session,
and what algebra makes there of a unit that can be come by and of anything else. -/
inductive Obtainable : Measure → Prop
  | one : Obtainable .one
  | declared {name symbol : String} {base : Argument} {s t : Session} {m : Measure}
      (h : (declare name symbol base).run s = .ok m t) : Obtainable m
  | worth {q : Quantity} {s t : Session} {m : Measure}
      (h : (asUnit q).run s = .ok m t) : Obtainable m
  | scaled {m n : Measure} {x : Argument} {s t : Session} (hm : Obtainable m)
      (h : (scaleUnit m x).run s = .ok n t) : Obtainable n
  | multiplied {m n : Measure} {x : Argument} {s t : Session} (hm : Obtainable m)
      (h : (multiplyUnit m x).run s = .ok n t) : Obtainable n
  | divided {m n : Measure} {x : Argument} {s t : Session} (hm : Obtainable m)
      (h : (divideUnit m x).run s = .ok n t) : Obtainable n
  | inverted {m n : Measure} {x : Argument} {s t : Session} (hm : Obtainable m)
      (h : (invertUnit m x).run s = .ok n t) : Obtainable n
  | raised {m n : Measure} {e : Int} {s t : Session} (hm : Obtainable m)
      (h : (raise (.unit m) e).run s = .ok (.unit n) t) : Obtainable n

/-- The operation answers only with squeezed units. -/
def IssuesSqueezed (x : SessionM Measure) : Prop :=
  ∀ s m t, x.run s = .ok m t → m.Squeezed

theorem issuesSqueezed_issue {d : Denomination} (h : d.Squeezed) : IssuesSqueezed (issue d) := by
  intro s m t hrun
  cases hrun
  exact h

theorem issuesSqueezed_throw (f : Fault) : IssuesSqueezed (throw f) := by
  intro s m t hrun
  cases hrun

/-- What is issued in the end decides. -/
theorem IssuesSqueezed.bind {x : SessionM α} {f : α → SessionM Measure}
    (h : ∀ a, IssuesSqueezed (f a)) : IssuesSqueezed (x >>= f) := by
  intro s m t hrun
  obtain ⟨a, u, -, hf⟩ := run_eq_ok_of_bind hrun
  exact h a u m t hf

theorem issuesSqueezed_declare (name symbol : String) (base : Argument) :
    IssuesSqueezed (declare name symbol base) := by
  unfold declare
  split
  · exact issuesSqueezed_issue (Denomination.squeezed_declare ..)
  · exact issuesSqueezed_issue (Denomination.squeezed_declare ..)
  · exact issuesSqueezed_throw _

theorem issuesSqueezed_asUnit (q : Quantity) : IssuesSqueezed (asUnit q) :=
  issuesSqueezed_issue (Denomination.squeezed_declare ..)

/-- Once a unit is the unit itself. -/
theorem issuesSqueezed_scaleUnit (hm : m.Squeezed) (x : Argument) :
    IssuesSqueezed (scaleUnit m x) := by
  unfold scaleUnit
  split
  · intro s n t hrun
    cases hrun
    exact hm
  · refine .bind fun scalar => .bind fun factor => issuesSqueezed_issue ?_
    exact Denomination.squeezed_derive ..

theorem issuesSqueezed_multiplyUnit (hm : m.Squeezed) (x : Argument) :
    IssuesSqueezed (multiplyUnit m x) := by
  unfold multiplyUnit
  split
  · exact issuesSqueezed_issue (Denomination.squeezed_derive ..)
  · exact issuesSqueezed_scaleUnit hm _

theorem issuesSqueezed_divideUnit (m : Measure) (x : Argument) :
    IssuesSqueezed (divideUnit m x) := by
  unfold divideUnit
  split
  · exact issuesSqueezed_issue (Denomination.squeezed_derive ..)
  · refine .bind fun text => .bind fun scalar => issuesSqueezed_issue ?_
    exact Denomination.squeezed_derive ..

theorem issuesSqueezed_invertUnit (m : Measure) (x : Argument) :
    IssuesSqueezed (invertUnit m x) := by
  refine .bind fun text => .bind fun scalar => issuesSqueezed_issue ?_
  exact Denomination.squeezed_derive ..

/-- However a unit is come by, its symbol is squeezed. -/
theorem Obtainable.squeezed (h : Obtainable m) : m.Squeezed := by
  induction h with
  | one => exact Denomination.squeezed_declare ..
  | declared h => exact issuesSqueezed_declare _ _ _ _ _ _ h
  | worth h => exact issuesSqueezed_asUnit _ _ _ _ h
  | scaled _ h ih => exact issuesSqueezed_scaleUnit ih _ _ _ _ h
  | multiplied _ h ih => exact issuesSqueezed_multiplyUnit ih _ _ _ _ h
  | divided _ h _ => exact issuesSqueezed_divideUnit _ _ _ _ _ h
  | inverted _ h _ => exact issuesSqueezed_invertUnit _ _ _ _ _ h
  | raised _ h _ =>
    cases h
    exact Denomination.squeezed_derive ..

/-- What squeezing does to a text. Replacing two operators in a row by one, over and over, comes to
an end for either operator, and doing this for one and then for the other is squeezing. It reduces
every maximal run of an operator to one character and keeps all else, so that no operator is left
twice in a row. Squeezing again changes nothing, and neither does squeezing the parts of a text
first. The symbol of every unit that can be come by is squeezed in this way. -/
theorem squeezed_of_runs (a b : String) :
    (∃ u, Undoubled '*' a.toList u ∧ Undoubled '/' u (squeezed a).toList) ∧
    (∀ u t, Undoubled '*' a.toList u → Undoubled '/' u t → t = (squeezed a).toList) ∧
    (squeezed a).toList = (a.toList.splitBy (· == ·)).flatMap shortened ∧
    ¬['*', '*'] <:+: (squeezed a).toList ∧ ¬['/', '/'] <:+: (squeezed a).toList ∧
    squeezed (squeezed a) = squeezed a ∧
    squeezed (squeezed a ++ squeezed b) = squeezed (a ++ b) ∧
    ∀ m, Obtainable m → ¬['*', '*'] <:+: m.symbol.toList ∧ ¬['/', '/'] <:+: m.symbol.toList := by
  have ha : (squeezed a).toList = squeeze a.toList := Denomination.toList_squeezed a
  refine ⟨ha ▸ undoubled_squeeze a.toList, fun u t h h' => ha ▸ h.squeeze h',
    ha ▸ squeeze_eq_flatMap a.toList, ha ▸ not_infix_squeeze rfl _, ha ▸ not_infix_squeeze rfl _,
    ?_, ?_, fun m hm => ⟨hm.squeezed.not_doubled rfl, hm.squeezed.not_doubled rfl⟩⟩
  · rw [squeezed, ha, squeeze_squeeze, squeezed]
  · rw [squeezed, String.toList_append, Denomination.toList_squeezed, Denomination.toList_squeezed,
      squeeze_append_squeeze, ← String.toList_append, squeezed]

/-- A unit that is declared with a doubled operator in its symbol has it once. -/
theorem squeezed_of_runs_declared :
    ∃ m t, (declare "square" "m**2" (.dimension 1)).run (start true []) = .ok m t ∧
      m.symbol = "m*2" ∧ ¬['*', '*'] <:+: m.symbol.toList := by
  obtain ⟨m, t, hrun, hsymbol⟩ : ∃ m t,
      (declare "square" "m**2" (.dimension 1)).run (start true []) = .ok m t ∧ m.symbol = "m*2" :=
    ⟨_, _, rfl, by decide⟩
  obtain ⟨-, -, -, -, -, -, -, hobtainable⟩ := squeezed_of_runs "m**2" ""
  exact ⟨m, t, hrun, hsymbol, (hobtainable m (.declared hrun)).1⟩

/-- A run of four and one of three, with other characters between them. -/
example : squeezed "m****s///2" = "m*s/2" := by decide

end Session

end Metrology
