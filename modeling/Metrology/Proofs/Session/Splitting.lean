import Metrology.Proofs.Numeral.Truncation
import Metrology.Proofs.Session.Comparison
import Metrology.Session.Standard

/-!
# Splitting a quantity

A quantity is split into whole parts of the given units, one after another: every unit but the last
takes the whole part of what remains, and the last takes the rest, rounded. What remains is kept in
the unit of the quantity (`Quantity.remaining`), so every part is told by the parts in front of it
(`SplitInto`). That all units have the dimension of the quantity is looked at before anything is
converted, and then nothing can fail on the way (`split_outcome`).
-/

namespace Metrology

open Numeral Session

/-- The second double is the first one without its fraction; what is not finite has none. -/
structure IsWholePart (x y : Float) : Prop where
  finite : isFinite x = true → isFinite y = true ∧ rational y = towardZero (rational x)
  other : isFinite x = false → y = x

/-- The whole part of a value is the one that a split takes. -/
theorem isWholePart_wholePart (x : Float) : IsWholePart x (wholePart x) :=
  ⟨wholePart_of_isFinite, wholePart_of_not_isFinite⟩

namespace Quantity

variable {q r : Quantity} {v : Measure}

/-- What remains of a quantity, in its own unit, when others are taken from it one by one. -/
def remaining (q : Quantity) (parts : List Quantity) : Quantity :=
  { q with value := parts.foldl (fun x part => x - part.valueIn q.unit) q.value }

/-- The serial number of a quantity does not matter for its value. -/
theorem valueIn_congr (hvalue : q.value = r.value) (hunit : q.unit = r.unit) (v : Measure) :
    q.valueIn v = r.valueIn v := by
  rw [valueIn, valueIn, hvalue, hunit]

/-- What remains when one more is taken in front of the others. -/
theorem valueIn_remaining_cons {part : Quantity} (hunit : r.unit = q.unit)
    (hvalue : r.value = q.value - part.valueIn q.unit) (parts : List Quantity) (v : Measure) :
    (q.remaining (part :: parts)).valueIn v = (r.remaining parts).valueIn v := by
  have hvalues : (q.remaining (part :: parts)).value = (r.remaining parts).value := by
    rw [remaining, remaining, hunit, hvalue]
    rfl
  exact valueIn_congr hvalues hunit.symm v

end Quantity

/-- The parts of a quantity in given units. -/
structure SplitInto (q : Quantity) (decimals : Int) (ms : List Measure) (parts : List Quantity) :
    Prop where
  /-- There is one part for each unit, in their order and with this very unit. -/
  units : parts.map (fun part => part.unit) = ms
  /-- Every part but the last is the whole part of what the parts in front of it leave. -/
  whole : ∀ before part after, parts = before ++ part :: after → after ≠ [] →
    IsWholePart ((q.remaining before).valueIn part.unit) part.value
  /-- The last part is what the others leave, rounded. -/
  last : ∀ before part, parts = before ++ [part] →
    roundTo? ((q.remaining before).valueIn part.unit) decimals = some part.value

section

variable {q rest part : Quantity} {decimals : Int} {m : Measure} {ms : List Measure}
  {parts : List Quantity}

theorem splitInto_nil (q : Quantity) (decimals : Int) : SplitInto q decimals [] [] := by
  refine ⟨rfl, fun before part after h => ?_, fun before part h => ?_⟩
  · simp at h
  · simp at h

/-- The last part takes what is left, rounded. -/
theorem splitInto_last (hunit : part.unit = m)
    (hround : roundTo? (q.valueIn m) decimals = some part.value) :
    SplitInto q decimals [m] [part] := by
  subst hunit
  refine ⟨rfl, fun before part' after h hafter => ?_, fun before part' h => ?_⟩
  · cases before with
    | nil => exact absurd (List.cons.inj h).2.symm hafter
    | cons first before => simp at h
  · cases before with
    | nil =>
      obtain ⟨rfl, -⟩ := List.cons.inj h
      exact hround
    | cons first before => simp at h

/-- A whole part in front of the parts of what it leaves. -/
theorem SplitInto.cons (h : SplitInto rest decimals ms parts) (hms : ms ≠ [])
    (hunit : part.unit = m) (hwhole : IsWholePart (q.valueIn m) part.value)
    (hrest : rest.unit = q.unit) (hvalue : rest.value = q.value - part.valueIn q.unit) :
    SplitInto q decimals (m :: ms) (part :: parts) := by
  subst hunit
  have hvalueIn := Quantity.valueIn_remaining_cons hrest hvalue
  refine ⟨congrArg (part.unit :: ·) h.units, fun before part' after hparts hafter => ?_,
    fun before part' hparts => ?_⟩
  · cases before with
    | nil =>
      obtain ⟨rfl, -⟩ := List.cons.inj hparts
      exact hwhole
    | cons first before =>
      obtain ⟨rfl, htail⟩ := List.cons.inj hparts
      rw [hvalueIn]
      exact h.whole before part' after htail hafter
  · cases before with
    | nil =>
      -- something follows, since there are more units
      obtain ⟨-, rfl⟩ := List.cons.inj hparts
      exact absurd h.units.symm hms
    | cons first before =>
      obtain ⟨rfl, htail⟩ := List.cons.inj hparts
      rw [hvalueIn]
      exact h.last before part' htail

end

namespace Session

variable {α β : Type} {q : Quantity} {v : Measure} {decimals : Int} {s : Session}

/-! ## Operations that call no function -/

/-- The operation answers with something that has the property, and no function is called on the
way: nothing is written into the journal, and only the serial numbers and the meters move on. -/
def Silently (x : SessionM α) (s : Session) (P : α → Prop) : Prop :=
  ∃ a t, x.run s = .ok a t ∧ P a ∧ s.Beside t ∧ t.journal = s.journal

theorem silently_pure {P : α → Prop} {a : α} (h : P a) (s : Session) : Silently (pure a) s P :=
  ⟨a, s, rfl, h, .refl s, rfl⟩

/-- What is silent in its parts is silent as a whole. -/
theorem Silently.bind {x : SessionM α} {f : α → SessionM β} {P : α → Prop} {Q : β → Prop}
    (hx : Silently x s P) (hf : ∀ a t, P a → Silently (f a) t Q) : Silently (x >>= f) s Q := by
  obtain ⟨a, t, ht, ha, hst, hjournal⟩ := hx
  obtain ⟨b, u, hu, hb, htu, hjournal'⟩ := hf a t ha
  exact ⟨b, u, (run_bind_of_ok ht f).trans hu, hb, hst.trans htu, hjournal'.trans hjournal⟩

theorem silently_quantity (value : Float) (unit : Measure) (s : Session) :
    Silently (quantity value unit) s fun q => q.value = value ∧ q.unit = unit :=
  ⟨_, _, rfl, ⟨rfl, rfl⟩, ⟨Nat.le_succ _, rfl⟩, rfl⟩

/-- Within a dimension, a conversion is silent. -/
theorem silently_convert (id : Nat) (s : Session)
    (h : q.unit.compatible v.toDenomination = true) :
    Silently (convert id q v) s fun r => r.value = q.valueIn v := by
  obtain ⟨t, ht, hbeside, hjournal⟩ := run_convert_of_compatible id s h
  exact ⟨_, t, ht, q.value_expressed v _, hbeside, hjournal⟩

theorem silently_convertTo (id : Nat) (s : Session)
    (h : q.unit.compatible v.toDenomination = true) :
    Silently (convertTo q (.unit v) none (some id)) s fun r => r.value = q.valueIn v :=
  (silently_convert id s h).bind fun _ t hr =>
    silently_pure (P := fun r : Quantity => r.value = q.valueIn v) hr t

theorem silently_convertTo_rounded (id : Nat) (s : Session)
    (h : q.unit.compatible v.toDenomination = true) (hdecimals : 0 ≤ decimals) :
    Silently (convertTo q (.unit v) (some decimals) (some id)) s fun r =>
      r.unit = v ∧ roundTo? (q.valueIn v) decimals = some r.value := by
  obtain ⟨y, hy, -⟩ := exists_roundTo? (q.valueIn v) hdecimals
  refine (silently_convert id s h).bind fun r t hr => ?_
  have hround : Silently (round r.value decimals) t fun x => x = y := by
    rw [round, hr, hy]
    exact silently_pure (P := fun x => x = y) rfl t
  refine hround.bind fun x u hx => ?_
  obtain ⟨a, w, hw, ⟨hvalue, hunit⟩, hrest⟩ := silently_quantity x v u
  exact ⟨a, w, hw, ⟨hunit, by rw [hy, hvalue, hx]⟩, hrest⟩

/-! ## Splitting -/

/-- Splitting over units of the dimension of the quantity succeeds: by induction on the units, with
what remains in the place of the quantity. -/
theorem silently_splitOver (id : Nat) (hdecimals : 0 ≤ decimals) {ms : List Measure}
    (h : ∀ m ∈ ms, q.unit.compatible m.toDenomination = true) (s : Session) :
    Silently (splitOver id decimals q ms) s (SplitInto q decimals ms) := by
  induction ms generalizing q s with
  | nil => exact silently_pure (splitInto_nil q decimals) s
  | cons m ms ih =>
    have hm := h m List.mem_cons_self
    cases ms with
    | nil =>
      refine (silently_convertTo_rounded id s hm hdecimals).bind fun part t hpart => ?_
      exact silently_pure (splitInto_last hpart.1 hpart.2) t
    | cons m' ms =>
      -- whole units are taken off, and the rest goes on to the other units
      refine (silently_convertTo id s hm).bind fun whole t hwhole => ?_
      refine (silently_quantity (wholePart whole.value) m t).bind fun part t hpart => ?_
      have hback : part.unit.compatible q.unit.toDenomination = true := by
        rw [hpart.2]
        exact Measure.compatible_iff.2 (Measure.compatible_iff.1 hm).symm
      refine (silently_convertTo id t hback).bind fun taken t htaken => ?_
      refine (silently_quantity (q.value - taken.value) q.unit t).bind fun rest t hrest => ?_
      have hparts := ih (q := rest) (fun v hv => by
        rw [hrest.2]
        exact h v (List.mem_cons_of_mem m hv)) t
      refine hparts.bind fun parts t hparts => silently_pure ?_ t
      refine hparts.cons (List.cons_ne_nil m' ms) hpart.2 ?_ hrest.2 ?_
      · rw [hpart.1, hwhole]
        exact isWholePart_wholePart _
      · rw [hrest.1, htaken]

/-- Units that are given as such are taken as they are. -/
theorem run_mapM_resolveRef (id : Option Nat) (ms : List Measure) (s : Session) :
    ((ms.map UnitRef.unit).mapM (resolveRef id)).run s = .ok ms s := by
  induction ms with
  | nil => rfl
  | cons m ms ih =>
    have hunit : (resolveRef id (.unit m)).run s = .ok m s := rfl
    rw [List.map_cons, List.mapM_cons, run_bind_of_ok hunit, run_bind_of_ok ih]
    rfl

/-- Splitting checks the units once the registry is there, and then goes over them. -/
theorem run_split {id : Nat} {t : Session} {o : Option Nat} (ht : (registryOr o).run s = .ok id t)
    (q : Quantity) (ms : List Measure) (decimals : Int) :
    (split q (ms.map UnitRef.unit) decimals o).run s =
      match ms.find? fun m => !q.unit.compatible m.toDenomination with
      | some m => .error (.notConvertible q.unit (some m)) t
      | none => (splitOver id decimals q ms).run t := by
  unfold split
  rw [run_bind_of_ok ht, run_bind_of_ok (run_mapM_resolveRef _ ms t)]
  cases ms.find? fun m => !q.unit.compatible m.toDenomination with
  | none => rfl
  | some m => rfl

/-- What the check looks for. -/
theorem not_compatible_iff {m : Measure} :
    (!q.unit.compatible m.toDenomination) = true ↔ m.dimension ≠ q.unit.dimension := by
  rw [Bool.not_eq_true', Bool.eq_false_iff, Ne, Measure.compatible_iff]
  exact not_congr eq_comm

/-- No unit is found if all have the dimension of the quantity. -/
theorem find?_not_compatible_eq_none_iff {ms : List Measure} :
    (ms.find? fun m => !q.unit.compatible m.toDenomination) = none ↔
      ∀ m ∈ ms, m.dimension = q.unit.dimension := by
  simp only [List.find?_eq_none, not_compatible_iff, not_not]

/-- Otherwise the first one of another dimension is. -/
theorem find?_not_compatible_append {before rest : List Measure} {m : Measure}
    (hbefore : ∀ v ∈ before, v.dimension = q.unit.dimension)
    (hm : m.dimension ≠ q.unit.dimension) :
    ((before ++ m :: rest).find? fun v => !q.unit.compatible v.toDenomination) = some m := by
  rw [List.find?_append, find?_not_compatible_eq_none_iff.2 hbefore, Option.none_or]
  exact List.find?_cons_of_pos (not_compatible_iff.2 hm)

/-- In every session, a quantity can be split into parts of given units exactly if all of them have
its dimension, whatever conversion functions there are. Then there is one part for each unit, as
`SplitInto` says, and no function is called. Otherwise the first unit of another dimension is
reported and nothing is converted before. The list without units has no parts. -/
theorem split_outcome (q : Quantity) (ms : List Measure) (decimals : Int) (h : 0 ≤ decimals)
    (o : Option Nat) (s : Session) :
    let t := after (registryOr o) s
    ((∃ parts u, (split q (ms.map UnitRef.unit) decimals o).run s = .ok parts u) ↔
      ∀ m ∈ ms, m.dimension = q.unit.dimension) ∧
    ((∀ m ∈ ms, m.dimension = q.unit.dimension) →
      ∃ parts u, (split q (ms.map UnitRef.unit) decimals o).run s = .ok parts u ∧
        SplitInto q decimals ms parts ∧ t.Beside u ∧ u.journal = t.journal) ∧
    (∀ before m rest, ms = before ++ m :: rest → (∀ v ∈ before, v.dimension = q.unit.dimension) →
      m.dimension ≠ q.unit.dimension →
      (split q (ms.map UnitRef.unit) decimals o).run s =
        .error (.notConvertible q.unit (some m)) t) ∧
    (ms = [] → (split q (ms.map UnitRef.unit) decimals o).run s = .ok [] t) := by
  obtain ⟨id, t, ht, -⟩ := exists_answers_registryOr o s
  have hrun := run_split ht q ms decimals
  rw [after_of_ok ht]
  intro t
  -- the check comes before the first conversion, so nothing is left half done
  have hall : (∀ m ∈ ms, m.dimension = q.unit.dimension) →
      ∃ parts u, (split q (ms.map UnitRef.unit) decimals o).run s = .ok parts u ∧
        SplitInto q decimals ms parts ∧ t.Beside u ∧ u.journal = t.journal := by
    intro hms
    rw [hrun, find?_not_compatible_eq_none_iff.2 hms]
    exact silently_splitOver id h (fun m hm => Measure.compatible_iff.2 (hms m hm).symm) t
  refine ⟨⟨fun ⟨parts, u, hok⟩ => ?_, fun hms => ?_⟩, hall,
    fun before m rest hms hbefore hm => ?_, fun hms => ?_⟩
  · cases hfind : ms.find? fun m => !q.unit.compatible m.toDenomination with
    | none => exact find?_not_compatible_eq_none_iff.1 hfind
    | some v =>
      rw [hrun, hfind] at hok
      cases hok
  · obtain ⟨parts, u, hok, -⟩ := hall hms
    exact ⟨parts, u, hok⟩
  · subst hms
    rw [hrun, find?_not_compatible_append hbefore hm]
  · subst hms
    exact hrun

/-- Almost two hours in hours, minutes and seconds, and a length between them. -/
theorem split_outcome_hours :
    (∃ parts u, (split ⟨1.99, Catalog.hour, 1000⟩
        ([Catalog.hour, Catalog.minute, Catalog.second].map UnitRef.unit) 0 (some 0)).run
          (start true []) = .ok parts u ∧
      SplitInto ⟨1.99, Catalog.hour, 1000⟩ 0 [Catalog.hour, Catalog.minute, Catalog.second]
        parts) ∧
    (split ⟨1.99, Catalog.hour, 1000⟩
        ([Catalog.hour, Catalog.meter, Catalog.kilogram].map UnitRef.unit) 0 (some 0)).run
          (start true []) =
      .error (.notConvertible Catalog.hour (some Catalog.meter)) (start true []) := by
  constructor
  · obtain ⟨-, hparts, -⟩ := split_outcome ⟨1.99, Catalog.hour, 1000⟩
      [Catalog.hour, Catalog.minute, Catalog.second] 0 (by decide) (some 0) (start true [])
    obtain ⟨parts, u, hok, hsplit, -⟩ := hparts (by decide)
    exact ⟨parts, u, hok, hsplit⟩
  · obtain ⟨-, -, hfails, -⟩ := split_outcome ⟨1.99, Catalog.hour, 1000⟩
      [Catalog.hour, Catalog.meter, Catalog.kilogram] 0 (by decide) (some 0) (start true [])
    exact hfails [Catalog.hour] Catalog.meter [Catalog.kilogram] rfl (by decide) (by decide)

end Session

end Metrology
