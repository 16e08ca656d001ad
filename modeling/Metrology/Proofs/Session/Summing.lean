import Metrology.Proofs.Session.Comparison
import Metrology.Report.Explanation
import Metrology.Session.Aggregate
import Metrology.Session.Standard

/-!
# Sums and averages

A sum goes through its items from left to right. The first quantity is taken as it is, and each
further one is converted to its unit and added (`AddedInTurn`). The conversions happen one after
another, each in the session that the ones before it have left, so what they register and count is
there for the next. Among quantities of one dimension none of them fails
(`exists_added_of_dimension`). An average is the sum divided by the number of items, and it fails
where the sum does (`sum_and_average`).
-/

namespace Metrology

namespace Session

open Numeral

variable {α : Type} {select : α → SessionM (Option Quantity)} {u : Measure} {s t : Session}

/-- What is selected from an item, converted to a unit. -/
def selectIn (select : α → SessionM (Option Quantity)) (u : Measure) (x : α) :
    SessionM Quantity := do
  match ← select x with
  | none => throw .wrongKind
  | some q => convertTo q (.unit u) none none

/-- Behind a first quantity with a unit, the items lead from `s` to `t`: what is selected from each
is converted to the unit, and the sum so far is issued. The values are those in the unit. -/
inductive AddedInTurn (select : α → SessionM (Option Quantity)) (u : Measure) :
    List α → Session → List Float → Session → Prop
  | done (s : Session) : AddedInTurn select u [] s [] s
  | next {x : α} {xs : List α} {s s' t : Session} {r : Quantity} {values : List Float}
      (h : (selectIn select u x).run s = .ok r s')
      (hrest : AddedInTurn select u xs (after newSerial s') values t) :
      AddedInTurn select u (x :: xs) s (r.value :: values) t

/-- The items are added in turn up to one that cannot be selected or converted, which fails with
the fault. -/
def BrokenOff (select : α → SessionM (Option Quantity)) (u : Measure) (xs : List α) (s : Session)
    (f : Fault) (t : Session) : Prop :=
  ∃ before x rest values s', xs = before ++ x :: rest ∧ AddedInTurn select u before s values s' ∧
    (selectIn select u x).run s' = .error f t

/-- Adding breaks off, or it reaches the end. -/
theorem added_or_brokenOff (select : α → SessionM (Option Quantity)) (u : Measure) (xs : List α)
    (s : Session) :
    (∃ values t, AddedInTurn select u xs s values t) ∨ ∃ f t, BrokenOff select u xs s f t := by
  induction xs generalizing s with
  | nil => exact .inl ⟨[], s, .done s⟩
  | cons x xs ih =>
    cases h : (selectIn select u x).run s with
    | error f t => exact .inr ⟨f, t, [], x, xs, [], s, rfl, .done s, h⟩
    | ok r s' =>
      rcases ih (after newSerial s') with ⟨values, t, hrest⟩ |
        ⟨f, t, before, y, rest, values, s'', rfl, hbefore, hy⟩
      · exact .inl ⟨_, t, .next h hrest⟩
      · exact .inr ⟨f, t, x :: before, y, rest, _, s'', rfl, .next h hbefore, hy⟩

/-! ## The steps of a sum -/

/-- One step of a sum behind its first quantity. -/
theorem addTo_some (q : Quantity) (x : α) :
    (do addTo (some q) (← select x)) = (do
      let r ← selectIn select q.unit x
      let total ← quantity (q.value + r.value) q.unit
      pure (some total)) := by
  simp only [selectIn, bind_assoc]
  refine bind_congr fun item => ?_
  cases item with
  | none => rfl
  | some item => simp only [addTo, add, bind_assoc]

/-- The sum of a first quantity and what is selected from further items. -/
def sumFrom (select : α → SessionM (Option Quantity)) (q : Quantity) (xs : List α) :
    SessionM (Option Quantity) :=
  xs.foldlM (fun total x => do addTo total (← select x)) (some q)

/-- Each further quantity is converted to the unit of the total and added. -/
theorem sumFrom_cons (q : Quantity) (x : α) (xs : List α) :
    sumFrom select q (x :: xs) = (do
      let r ← selectIn select q.unit x
      let total ← quantity (q.value + r.value) q.unit
      sumFrom select total xs) := by
  simp only [sumFrom, List.foldlM_cons]
  rw [addTo_some]
  simp only [bind_assoc, pure_bind]

/-- Where the items are added in turn, the sum is in the unit of the first quantity, and the values
are added to the one of the first from left to right. -/
theorem AddedInTurn.run_sumFrom {q : Quantity} {xs : List α} {values : List Float}
    (h : AddedInTurn select q.unit xs s values t) :
    ∃ total, (sumFrom select q xs).run s = .ok (some total) t ∧ total.unit = q.unit ∧
      total.value = values.foldl (· + ·) q.value := by
  induction xs generalizing q s values with
  | nil =>
    cases h
    exact ⟨q, rfl, rfl, rfl⟩
  | cons x xs ih =>
    cases h with
    | next hx hrest =>
      rename_i s' r values
      obtain ⟨total, hrun, hunit, hvalue⟩ :=
        ih (q := ⟨q.value + r.value, q.unit, s'.nextSerial⟩) hrest
      rw [sumFrom_cons]
      exact ⟨total, (run_bind_of_ok hx _).trans hrun, hunit, hvalue⟩

/-- Where adding breaks off, so does the sum. -/
theorem BrokenOff.run_sumFrom {q : Quantity} {xs : List α} {f : Fault}
    (h : BrokenOff select q.unit xs s f t) : (sumFrom select q xs).run s = .error f t := by
  obtain ⟨before, x, rest, values, s', rfl, hbefore, hx⟩ := h
  obtain ⟨total, hrun, hunit, -⟩ := hbefore.run_sumFrom
  have happend : sumFrom select q (before ++ x :: rest) = (do
      let total ← sumFrom select q before
      (x :: rest).foldlM (fun total x => do addTo total (← select x)) total) :=
    List.foldlM_append
  rw [happend, run_bind_of_ok hrun]
  show (sumFrom select total (x :: rest)).run s' = _
  rw [sumFrom_cons, hunit]
  exact run_bind_of_error hx _

/-! ## Sums -/

/-- A sum begins with the quantity selected from the first item. -/
theorem run_sum_cons {x : α} {xs : List α} {q : Quantity} {s₀ : Session}
    (h : (select x).run s₀ = .ok (some q) s) :
    (sum select (x :: xs)).run s₀ = (do
      match ← sumFrom select q xs with
      | some total => pure total
      | none => quantity 0.0 .one).run s := by
  unfold sum
  rw [List.foldlM_cons, bind_assoc, bind_assoc, run_bind_of_ok h]
  rfl

section

variable {x : α} {xs : List α} {q : Quantity} {s₀ : Session}
  (h : (select x).run s₀ = .ok (some q) s)
include h

/-- Where all quantities can be added in turn, the sum has the unit of the first one and the values
added from left to right. -/
theorem AddedInTurn.run_sum {values : List Float}
    (hadded : AddedInTurn select q.unit xs s values t) :
    ∃ total, (sum select (x :: xs)).run s₀ = .ok total t ∧ total.unit = q.unit ∧
      total.value = values.foldl (· + ·) q.value := by
  obtain ⟨total, hrun, hunit, hvalue⟩ := hadded.run_sumFrom
  rw [run_sum_cons h]
  exact ⟨total, run_bind_of_ok hrun _, hunit, hvalue⟩

/-- Where a quantity cannot be added, the sum fails as its conversion does. -/
theorem BrokenOff.run_sum {f : Fault} (hbroken : BrokenOff select q.unit xs s f t) :
    (sum select (x :: xs)).run s₀ = .error f t := by
  rw [run_sum_cons h]
  exact run_bind_of_error hbroken.run_sumFrom _

/-- Whatever a sum results in comes from adding its items in turn. -/
theorem added_of_run_sum {total : Quantity}
    (hrun : (sum select (x :: xs)).run s₀ = .ok total t) : total.unit = q.unit ∧
      ∃ values, AddedInTurn select q.unit xs s values t ∧
        total.value = values.foldl (· + ·) q.value := by
  rcases added_or_brokenOff select q.unit xs s with ⟨values, t', hadded⟩ | ⟨f, t', hbroken⟩
  · obtain ⟨total', hrun', hunit, hvalue⟩ := hadded.run_sum h
    rw [hrun] at hrun'
    cases hrun'
    exact ⟨hunit, values, hadded, hvalue⟩
  · rw [hbroken.run_sum h] at hrun
    cases hrun

/-- A sum fails where adding its items breaks off. -/
theorem run_sum_eq_error_iff {f : Fault} :
    (sum select (x :: xs)).run s₀ = .error f t ↔ BrokenOff select q.unit xs s f t := by
  refine ⟨fun hrun => ?_, fun hbroken => hbroken.run_sum h⟩
  rcases added_or_brokenOff select q.unit xs s with ⟨values, t', hadded⟩ | ⟨f', t', hbroken⟩
  · obtain ⟨total', hrun', -, -⟩ := hadded.run_sum h
    rw [hrun] at hrun'
    cases hrun'
  · rw [hbroken.run_sum h] at hrun
    cases hrun
    exact hbroken

end

/-! ## Sums and averages of quantities -/

/-- A quantity as an item that is selected as it is. -/
def itself (q : Quantity) : SessionM (Option Quantity) := pure (some q)

/-- Quantities of the dimension of a unit are added in turn, each with its value in the unit. -/
theorem exists_added_of_dimension {q : Quantity} {qs : List Quantity}
    (h : ∀ b ∈ qs, b.unit.dimension = q.unit.dimension) (s : Session) :
    ∃ t, AddedInTurn itself q.unit qs s (qs.map (·.valueIn q.unit)) t := by
  induction qs generalizing s with
  | nil => exact ⟨s, .done s⟩
  | cons b qs ih =>
    obtain ⟨hb, hqs⟩ := List.forall_mem_cons.1 h
    obtain ⟨serial, s', hconvert, -⟩ := exists_answers_convertTo none s hb.symm
    obtain ⟨t, hrest⟩ := ih hqs (after newSerial s')
    refine ⟨t, ?_⟩
    rw [List.map_cons, ← Quantity.value_expressed b q.unit serial]
    exact .next hconvert hrest

/-- Summing what is selected from the images of items is summing with the selection behind. -/
theorem sum_map {β : Type} (select : β → SessionM (Option Quantity)) (g : α → β)
    (items : List α) : sum select (items.map g) = sum (fun x => select (g x)) items := by
  rw [sum, sum, List.foldlM_map]

theorem mapM_itself (f : α → Quantity) (items : List α) :
    items.mapM (fun x => itself (f x)) = pure (items.map fun x => some (f x)) := by
  induction items with
  | nil => rfl
  | cons x items ih =>
    rw [List.mapM_cons, ih]
    rfl

/-- An average is the sum divided by the number of items. -/
theorem average_eq (f : α → Quantity) {items : List α} (h : items ≠ []) :
    average (fun x => itself (f x)) items = (do
      let total ← sum itself (items.map f)
      quantity (quotient total.value items.length.toFloat) total.unit) := by
  have hempty : (items.map fun x => some (f x)).isEmpty = false := by
    rw [List.isEmpty_map]
    simpa using h
  have hsum : sum pure (items.map fun x => some (f x)) = sum itself (items.map f) := by
    rw [sum_map, sum_map]
    rfl
  rw [average, mapM_itself, pure_bind, hempty, hsum, List.length_map]
  rfl

/-- To average with a selector is to average what it selects. -/
theorem average_map (f : α → Quantity) (items : List α) :
    average (fun x => itself (f x)) items = average itself (items.map f) := by
  cases items with
  | nil => rfl
  | cons x items =>
    have hne : (x :: items).map f ≠ [] := List.cons_ne_nil _ _
    have hmap := average_eq id hne
    rw [List.map_id, List.length_map] at hmap
    exact (average_eq f (List.cons_ne_nil x items)).trans hmap.symm

/-- The average is the sum divided by the number of quantities, and fails where the sum does. -/
theorem run_average {qs : List Quantity} (h : qs ≠ []) (s : Session) :
    (average itself qs).run s = match (sum itself qs).run s with
      | .ok total t => .ok ⟨quotient total.value qs.length.toFloat, total.unit, t.nextSerial⟩
          (after newSerial t)
      | .error f t => .error f t := by
  have heq := average_eq id h
  rw [List.map_id] at heq
  show (average (fun q => itself (id q)) qs).run s = _
  rw [heq]
  cases hrun : (sum itself qs).run s with
  | ok total t => rw [run_bind_of_ok hrun]; rfl
  | error f t => rw [run_bind_of_error hrun]

/-- An average fails where its sum breaks off. -/
theorem run_average_eq_error_iff {q : Quantity} {qs : List Quantity} {f : Fault} :
    (average itself (q :: qs)).run s = .error f t ↔ BrokenOff itself q.unit qs s f t := by
  have hfirst : (itself q).run s = .ok (some q) s := rfl
  rw [← run_sum_eq_error_iff hfirst, run_average (List.cons_ne_nil q qs) s]
  cases (sum itself (q :: qs)).run s with
  | ok total t' => exact iff_of_false nofun nofun
  | error f' t' => exact Iff.rfl

end Session

/-- The fault is reported as one about an argument. -/
def Fault.BlamesArgument (f : Fault) : Prop :=
  ∀ b : Basis, (f.report? b).map Report.kind = some .invalidArgument

namespace Session

open Numeral

/-- What sums and averages of quantities come to in a session, where a selector is a function. To
sum with a selector is to sum what it selects. The sum of a first quantity and further ones succeeds
exactly if the further ones are converted to its unit in turn; it is in the unit of the first one,
and its value is that of the first one with the converted values added from left to right. Otherwise
it fails as the first conversion that fails. One quantity is its own sum, and the sum of none is
zero. The average of none is a fault. That of others is their sum divided by their number, with the
fault of the sum where that fails; so the fault of an average is about an argument exactly if there
are no quantities or a conversion fails with such a fault. -/
theorem sum_and_average (s : Session) :
    (∀ (α : Type) (f : α → Quantity) (items : List α),
      sum (fun x => itself (f x)) items = sum itself (items.map f) ∧
      average (fun x => itself (f x)) items = average itself (items.map f)) ∧
    (∀ (q : Quantity) (qs : List Quantity),
      (∀ t, (∃ total, (sum itself (q :: qs)).run s = .ok total t) ↔
        ∃ values, AddedInTurn itself q.unit qs s values t) ∧
      (∀ total t, (sum itself (q :: qs)).run s = .ok total t → total.unit = q.unit ∧
        ∃ values, AddedInTurn itself q.unit qs s values t ∧
          total.value = values.foldl (· + ·) q.value) ∧
      (∀ f t, (sum itself (q :: qs)).run s = .error f t ↔
        BrokenOff itself q.unit qs s f t)) ∧
    (∀ q, (sum itself [q]).run s = .ok q s) ∧
    (sum itself []).run s = .ok ⟨0.0, .one, s.nextSerial⟩ (after newSerial s) ∧
    (average itself []).run s = .error .emptyAverage s ∧
    (∀ qs, qs ≠ [] → (average itself qs).run s = match (sum itself qs).run s with
      | .ok total t => .ok ⟨quotient total.value qs.length.toFloat, total.unit, t.nextSerial⟩
          (after newSerial t)
      | .error f t => .error f t) ∧
    ∀ qs, (∃ f t, (average itself qs).run s = .error f t ∧ f.BlamesArgument) ↔
      qs = [] ∨ ∃ q rest f t, qs = q :: rest ∧ BrokenOff itself q.unit rest s f t ∧
        f.BlamesArgument := by
  have hfirst (q : Quantity) : (itself q).run s = .ok (some q) s := rfl
  refine ⟨?_, ?_, fun q => rfl, rfl, rfl, fun qs h => run_average h s, ?_⟩
  · exact fun α f items => ⟨(sum_map itself f items).symm, average_map f items⟩
  · intro q qs
    refine ⟨fun t => ⟨?_, ?_⟩, fun total t => added_of_run_sum (hfirst q),
      fun f t => run_sum_eq_error_iff (hfirst q)⟩
    · rintro ⟨total, hrun⟩
      obtain ⟨-, values, hadded, -⟩ := added_of_run_sum (hfirst q) hrun
      exact ⟨values, hadded⟩
    · rintro ⟨values, hadded⟩
      obtain ⟨total, hrun, -⟩ := hadded.run_sum (hfirst q)
      exact ⟨total, hrun⟩
  · intro qs
    cases qs with
    | nil => exact iff_of_true ⟨.emptyAverage, s, rfl, fun _ => rfl⟩ (.inl rfl)
    | cons q rest =>
      constructor
      -- an average blames its argument where there is none, or where the sum stops
      · rintro ⟨f, t, hrun, hf⟩
        exact .inr ⟨q, rest, f, t, rfl, run_average_eq_error_iff.1 hrun, hf⟩
      · rintro (h | ⟨q, rest, f, t, ⟨⟩, hbroken, hf⟩)
        · cases h
        · exact ⟨f, t, run_average_eq_error_iff.2 hbroken, hf⟩

/-- An average of quantities can fail with a fault about an argument: here a function from seconds
to meters answers in something that is no unit. -/
theorem exists_average_blamesArgument :
    ¬∀ (s : Session) (qs : List Quantity),
      (∃ f t, (average itself qs).run s = .error f t ∧ f.BlamesArgument) ↔ qs = [] := by
  intro hall
  let careless : Conversion :=
    ⟨none, Catalog.second, Catalog.meter, fun q => .answer q.value (.other "int")⟩
  let s := play [.create "lab", .addConversion 0 careless, .useRegistry 0] (start true [])
  obtain ⟨t, ht⟩ : ∃ t, (average itself [⟨1.0, Catalog.meter, 200⟩, ⟨1.0, Catalog.second, 201⟩]).run
      s = .error (.notAUnit .reference "int") t := ⟨_, rfl⟩
  exact absurd ((hall s _).1 ⟨_, t, ht, fun _ => rfl⟩) (List.cons_ne_nil _ _)

end Session

end Metrology
