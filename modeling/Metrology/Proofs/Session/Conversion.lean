import Metrology.Proofs.Session.Operation
import Metrology.Session.Standard

/-!
# When and how quantities are converted

Where every conversion function answers in a unit of the dimension that it leads to, a conversion
succeeds exactly between units that `Registry.isConvertible` says it does, and calls at most one
function: the argument and the answer of the function are converted within one dimension, and that
calls none. The journal tells which functions were called.
-/

namespace Metrology

open Session

/-- A quantity in a unit of its dimension: itself in its own unit, otherwise its value rescaled. -/
def Quantity.expressed (q : Quantity) (v : Measure) (serial : Nat) : Quantity :=
  if q.unit.same v then q else ⟨q.unit.rescale v q.value, v, serial⟩

theorem Quantity.same_expressed (q : Quantity) (v : Measure) (serial : Nat) :
    (q.expressed v serial).unit.same v = true := by
  unfold expressed
  split
  · assumption
  · exact v.same_refl

namespace Session

/-- The second session is the first one later, apart from what conversion functions do not see: the
serial numbers, of which more are given out, the meters and the journal. -/
structure Beside (s t : Session) : Prop where
  serials : s.nextSerial ≤ t.nextSerial
  others : t = { s with nextSerial := t.nextSerial, meters := t.meters, journal := t.journal }

/-- What changes nothing is beside the registries. -/
theorem Beside.refl (s : Session) : s.Beside s :=
  ⟨Nat.le_refl _, rfl⟩

/-- One operation after another beside the registries is beside them. -/
theorem Beside.trans {s t u : Session} (h : s.Beside t) (h' : t.Beside u) : s.Beside u := by
  refine ⟨Nat.le_trans h.serials h'.serials, ?_⟩
  have hu := h'.others
  rw [h.others] at hu
  exact hu

/-- The standing registry stays the one it was. -/
theorem Beside.standing {s t : Session} (h : s.Beside t) : t.standing = s.standing := by
  rw [h.others]

/-- The registries stay what they were. -/
theorem Beside.registries {s t : Session} (h : s.Beside t) : t.registries = s.registries := by
  rw [h.others]

theorem Beside.facilities {s t : Session} (h : s.Beside t) : t.facilities = s.facilities := by
  rw [h.others]

theorem beside_note (n : Note) (s : Session) : s.Beside (after (note n) s) :=
  ⟨Nat.le_refl _, rfl⟩

theorem beside_count (e : Event) (s : Session) : s.Beside (after (count e) s) :=
  ⟨Nat.le_refl _, rfl⟩

/-- What conversion functions have quantities converted by where so many conversions may be under
way inside the one that calls them. -/
def callback (id depth : Nat) (q : Quantity) (target : Measure) : SessionM Quantity :=
  counted (convertWithin id depth q target)

/-- From `s` to `s'` the function is called once, with the quantity in the unit that it takes, and
its answer in the target unit is the result. The journal tells of the call and of what the function
has done itself, and of nothing else. -/
def AppliedOnce (id : Nat) (c : Conversion) (q : Quantity) (v : Measure) (s : Session)
    (result : Quantity) (s' : Session) : Prop :=
  ∃ argument answer t t', argument = q.expressed c.source s.nextSerial ∧
    argument.unit = c.source ∧ s.Beside t ∧
    t.journal = s.journal.push (.applied c.label argument.value argument.unit.name) ∧
    (run (callback id (s.facilities.deepest - 1)) (c.apply argument)).run t = .ok answer t' ∧
    result = answer.expressed v t'.nextSerial ∧ s'.journal = t'.journal

end Session

/-- In the session, the function answers to every quantity in the unit that it takes with one in a
unit of the dimension that it leads to. -/
def Conversion.Delivers (c : Conversion) (id : Nat) (s : Session) : Prop :=
  ∀ (q : Quantity) (t : Session), q.unit = c.source → s.Beside t →
    ∃ answer t', (run (callback id (s.facilities.deepest - 1)) (c.apply q)).run t = .ok answer t' ∧
      answer.unit.dimension = c.target.dimension

namespace Session

variable {id depth : Nat} {q : Quantity} {v : Measure} {s : Session}

/-! ## One conversion -/

/-- A conversion is as deep as the facilities allow, and counted once. -/
theorem run_convert (id : Nat) (q : Quantity) (v : Measure) (s : Session) :
    (convert id q v).run s = (counted (convertWithin id s.facilities.deepest q v)).run s :=
  rfl

/-- There is room for the two legs of a conversion by a function. -/
theorem exists_deepest_eq (s : Session) : ∃ depth, s.facilities.deepest = depth + 1 + 1 :=
  Nat.exists_eq_add_of_le' (Nat.le_trans (by decide : 2 ≤ 3) s.facilities.room)

/-- A conversion that succeeds is counted by the way it went. -/
theorem run_counted_of_ok {x : SessionM (Quantity × Path)} {r : Quantity} {path : Path}
    {t : Session} (h : x.run s = .ok (r, path) t) :
    (counted x).run s = .ok r (after (count (.conversion path)) t) := by
  unfold counted
  rw [run_tryCatch, run_bind_of_ok h]
  rfl

/-- A conversion without a way is counted as such, and its fault passed on. -/
theorem run_counted_of_notConvertible {x : SessionM (Quantity × Path)} {a : Measure}
    {b : Option Measure} {t : Session} (h : x.run s = .error (.notConvertible a b) t) :
    (counted x).run s = .error (.notConvertible a b) (after (count (.conversion .none)) t) := by
  unfold counted
  rw [run_tryCatch, run_bind_of_error h]
  rfl

/-- Within a dimension, quantities are converted without calling a function. -/
theorem run_convertWithin_of_compatible (id depth : Nat) (s : Session)
    (h : q.unit.compatible v.toDenomination = true) : ∃ path t,
      (convertWithin id (depth + 1) q v).run s =
        .ok (q.expressed v s.nextSerial, path) t ∧ s.Beside t ∧ t.journal = s.journal := by
  unfold convertWithin Quantity.expressed
  by_cases hs : q.unit.same v = true
  · rw [if_pos hs, if_pos hs]
    exact ⟨_, s, rfl, .refl s, rfl⟩
  · rw [if_neg hs, if_neg hs, if_pos h]
    exact ⟨_, _, rfl, ⟨Nat.le_succ _, rfl⟩, rfl⟩

/-- A quantity that has the target unit stays itself. -/
theorem run_convert_of_same (id : Nat) (s : Session) (h : q.unit.same v = true) :
    (convert id q v).run s = .ok q (after (count (.conversion .identity)) s) := by
  obtain ⟨depth, hdepth⟩ := exists_deepest_eq s
  have hwithin : (convertWithin id (depth + 1 + 1) q v).run s = .ok (q, .identity) s := by
    unfold convertWithin
    rw [if_pos h]
    rfl
  rw [run_convert, hdepth, run_counted_of_ok hwithin]

/-- Between two units of one dimension the value is rescaled. -/
theorem run_convert_of_rescale (id : Nat) (s : Session) (hs : q.unit.same v = false)
    (h : q.unit.compatible v.toDenomination = true) : (convert id q v).run s =
      .ok ⟨q.unit.rescale v q.value, v, s.nextSerial⟩
        (after (count (.conversion .linear)) { s with nextSerial := s.nextSerial + 1 }) := by
  obtain ⟨depth, hdepth⟩ := exists_deepest_eq s
  have hwithin : (convertWithin id (depth + 1 + 1) q v).run s =
      .ok (⟨q.unit.rescale v q.value, v, s.nextSerial⟩, .linear)
        { s with nextSerial := s.nextSerial + 1 } := by
    unfold convertWithin
    rw [hs, if_neg Bool.false_ne_true, if_pos h]
    rfl
  rw [run_convert, hdepth, run_counted_of_ok hwithin]

/-- Between two units of one dimension, a conversion succeeds without calling a function. -/
theorem run_convert_of_compatible (id : Nat) (s : Session)
    (h : q.unit.compatible v.toDenomination = true) : ∃ t,
      (convert id q v).run s = .ok (q.expressed v s.nextSerial) t ∧ s.Beside t ∧
        t.journal = s.journal := by
  obtain ⟨depth, hdepth⟩ := exists_deepest_eq s
  obtain ⟨path, t, ht, hbeside, hjournal⟩ := run_convertWithin_of_compatible id (depth + 1) s h
  rw [run_convert, hdepth]
  exact ⟨_, run_counted_of_ok ht, hbeside.trans (beside_count _ t), hjournal⟩

/-- Between dimensions without a function, the conversion fails and changes nothing. -/
theorem run_convertWithin_of_none (hs : q.unit.same v = false)
    (h : (s.registryAt id).isConvertible q.unit v = false) :
    (convertWithin id (depth + 1) q v).run s = .error (.notConvertible q.unit (some v)) s := by
  rw [Registry.isConvertible, Bool.or_eq_false_iff, Option.isSome_eq_false_iff,
    Option.isNone_iff_eq_none] at h
  unfold convertWithin
  rw [hs, h.1, if_neg (by decide), if_neg (by decide), run_bind_of_ok (run_registry id s), h.2]
  rfl

/-- Between dimensions with a function, the function is called once, with the quantity in the unit
that it takes, and what it answers is converted within its dimension. -/
theorem run_convert_of_some {c : Conversion} (hs : q.unit.same v = false)
    (hv : q.unit.compatible v.toDenomination = false)
    (hc : (s.registryAt id).conversion? q.unit v = some c)
    (hroute : c.route = (q.unit.dimension, v.dimension))
    (hsource : q.unit.same c.source = true → q.unit = c.source) (hd : c.Delivers id s) :
    ∃ a s', (convert id q v).run s = .ok a s' ∧ a.unit.same v = true ∧
      AppliedOnce id c q v s a s' := by
  obtain ⟨hfrom, hto⟩ := Prod.mk.injEq .. ▸ hroute
  obtain ⟨argument, hargument⟩ : ∃ a, a = q.expressed c.source s.nextSerial := ⟨_, rfl⟩
  have hunit : argument.unit = c.source := by
    rw [hargument]
    unfold Quantity.expressed
    split
    · exact hsource ‹_›
    · rfl
  obtain ⟨depth, hdepth⟩ := exists_deepest_eq s
  -- both legs of the conversion stay within a dimension; between them the function answers
  obtain ⟨path, t, ht, hbeside, hjournal⟩ := run_convertWithin_of_compatible id depth s
    (show q.unit.compatible c.source.toDenomination = true by simp [Denomination.compatible, hfrom])
  rw [← hargument] at ht
  have hcalled := hbeside.trans (beside_note (.applied c.label argument.value argument.unit.name) t)
  obtain ⟨answer, t', ht', hanswer⟩ := hd argument _ hunit hcalled
  obtain ⟨path', u, hu, -, hjournal'⟩ := run_convertWithin_of_compatible id depth t'
    (show answer.unit.compatible v.toDenomination = true by
      simp [Denomination.compatible, hanswer, hto])
  have hwithin : (convertWithin id s.facilities.deepest q v).run s =
      .ok (answer.expressed v t'.nextSerial, .function) u := by
    rw [hdepth, Nat.add_sub_cancel] at ht'
    rw [hdepth]
    unfold convertWithin
    rw [hs, hv, if_neg (by decide), if_neg (by decide), run_bind_of_ok (run_registry id s), hc]
    exact (run_bind_of_ok ht _).trans ((run_bind_of_ok ht' _).trans (run_bind_of_ok hu _))
  refine ⟨_, _, run_counted_of_ok hwithin, answer.same_expressed v _, ?_⟩
  refine ⟨argument, answer, _, t', hargument, hunit, hcalled, ?_, ht', rfl, hjournal'⟩
  rw [← hjournal]
  rfl

/-! ## The outcome of a conversion -/

/-- Units of different dimensions are not the same. -/
theorem not_same_of_not_compatible (h : q.unit.same v = true → q.unit = v)
    (hv : q.unit.compatible v.toDenomination = false) : q.unit.same v = false := by
  refine Bool.eq_false_iff.2 fun hs => ?_
  rw [h hs, Measure.compatible_iff.2 rfl] at hv
  cases hv

/-- A conversion between units that are convertible succeeds: without a function within a dimension,
and with one call of the function for the two dimensions otherwise. -/
theorem run_convert_of_isConvertible {r : Registry} {cs : List Conversion}
    (hr : s.registryAt id = r) (hcs : r.Recorded cs)
    (hd : ∀ c ∈ r.conversions.values, c.Delivers id s)
    (hu : Measure.Coherent (q.unit :: v :: r.conversions.values.map Conversion.source))
    (h : r.isConvertible q.unit v = true) :
    ∃ a s', (convert id q v).run s = .ok a s' ∧ a.unit.same v = true ∧
      if q.unit.dimension = v.dimension then
        a = q.expressed v s.nextSerial ∧ s'.journal = s.journal
      else ∃ c, r.conversion? q.unit v = some c ∧ AppliedOnce id c q v s a s' := by
  have hsame := hu q.unit List.mem_cons_self v (by simp)
  by_cases hv : q.unit.dimension = v.dimension
  · obtain ⟨t, ht, -, hjournal⟩ := run_convert_of_compatible id s (Measure.compatible_iff.2 hv)
    refine ⟨_, t, ht, q.same_expressed v _, ?_⟩
    rw [if_pos hv]
    exact ⟨rfl, hjournal⟩
  · -- the units are convertible all the same, so there is a function, stored under its own route
    have hv' : q.unit.compatible v.toDenomination = false := by
      rw [← Bool.not_eq_true, Measure.compatible_iff]
      exact hv
    rw [Registry.isConvertible, hv', Bool.false_or, Option.isSome_iff_exists] at h
    obtain ⟨c, hc⟩ := h
    have hmem := Table.mem_values_of_get? hc
    have hsource : c.source ∈ q.unit :: v :: r.conversions.values.map Conversion.source := by
      simp only [List.mem_cons, List.mem_map]
      exact .inr (.inr ⟨c, hmem, rfl⟩)
    obtain ⟨a, s', ha, hunit, honce⟩ := run_convert_of_some (not_same_of_not_compatible hsame hv')
      hv' (hr ▸ hc) (hcs.conversions.key_of_get? hc)
      (hu q.unit List.mem_cons_self c.source hsource) (hd c hmem)
    refine ⟨a, s', ha, hunit, ?_⟩
    rw [if_neg hv]
    exact ⟨c, hc, honce⟩

/-- A conversion between units that are not convertible fails and calls no function. -/
theorem run_convert_of_not_isConvertible (hs : q.unit.same v = false)
    (h : (s.registryAt id).isConvertible q.unit v = false) :
    (convert id q v).run s =
      .error (.notConvertible q.unit (some v)) (after (count (.conversion .none)) s) := by
  obtain ⟨depth, hdepth⟩ := exists_deepest_eq s
  rw [run_convert, hdepth, run_counted_of_notConvertible (run_convertWithin_of_none hs h)]

/-! ## Comparing quantities -/

/-- Rounding fails by overflow only. -/
theorem failsOnly_round (x : Float) (places : Int) :
    FailsOnly (· = .overflow) (round x places) := by
  unfold round
  split
  · exact failsOnly_pure _
  · exact failsOnly_throw rfl

/-- Comparing values fails only where rounding one of them does. -/
theorem failsOnly_roundedEqual (x y : Float) : FailsOnly (· = .overflow) (roundedEqual x y) :=
  failsOnly_currentSettings.bind fun _ => (failsOnly_round x _).bind fun _ =>
    (failsOnly_round y _).bind fun _ => failsOnly_pure _

/-- The named registry is used, or else the standing one. -/
theorem run_registryOr {o : Option Nat} (h : o = some id ∨ o = none ∧ s.standing = some id) :
    (registryOr o).run s = .ok id s := by
  obtain rfl | ⟨rfl, hs⟩ := h
  · rfl
  · exact run_standingRegistry_of_some hs

/-- Quantities are compared by asking whether one is convertible before it is converted, so
comparing them fails only where a value cannot be rounded. -/
theorem failsOnly_equal {r : Registry} {a : Quantity} {o : Option Nat}
    (ho : o = some id ∨ o = none ∧ s.standing = some id) (hr : s.registryAt id = r)
    (hc : r.isConvertible q.unit a.unit = true →
      ∃ b s', (convert id q a.unit).run s = .ok b s')
    {f : Fault} {s' : Session} (h : (equal a q o).run s = .error f s') : f = .overflow := by
  unfold equal at h
  split at h
  · cases h
  · rw [run_bind_of_ok (run_registryOr ho), run_bind_of_ok (run_registry id s), hr] at h
    split at h
    · cases h
    · -- what is asked and what is done agree, so only rounding is left to fail
      rename_i hn
      obtain ⟨b, t, hb⟩ := hc (by simpa using hn)
      rw [run_bind_of_ok hb] at h
      exact failsOnly_roundedEqual _ _ _ _ _ h

/-- After every run, where all conversion functions of a registry deliver, a conversion succeeds
exactly between units that are convertible, in the very unit that is asked for, and fails otherwise
naming both units. Functions are called only between different dimensions, and then once, the one
that is registered for them, with a quantity in the unit that it takes. So comparing quantities
never fails because they cannot be converted. -/
theorem convert_iff_isConvertible (f : Facilities) (enabled : Bool) (env : Environment)
    (ops : List Operation) (s : Session) (hs : s = play ops (initial f enabled env)) (id : Nat)
    (r : Registry)
    (hr : s.registries[id]? = some r) (hd : ∀ c ∈ r.conversions.values, c.Delivers id s)
    (q : Quantity) (v : Measure)
    (hu : Measure.Coherent (q.unit :: v :: r.conversions.values.map Conversion.source)) :
    (r.isConvertible q.unit v = true →
      ∃ a s', (convert id q v).run s = .ok a s' ∧ a.unit.same v = true ∧
        if q.unit.dimension = v.dimension then
          a = q.expressed v s.nextSerial ∧ s'.journal = s.journal
        else ∃ c, r.conversion? q.unit v = some c ∧ AppliedOnce id c q v s a s') ∧
    (r.isConvertible q.unit v = false →
      ∃ s', (convert id q v).run s = .error (.notConvertible q.unit (some v)) s' ∧
        s'.journal = s.journal) ∧
    ∀ a o, a.unit = v → o = some id ∨ o = none ∧ s.standing = some id →
      ∀ f s', (equal a q o).run s = .error f s' → f = .overflow := by
  subst hs
  obtain ⟨cs, hcs⟩ := exists_recorded_of_play hr
  have hat := registryAt_of_getElem? hr
  have hok := run_convert_of_isConvertible hat hcs hd hu
  refine ⟨hok, fun h => ?_, fun a o ha ho f s' h => failsOnly_equal ho hat (fun hc => ?_) h⟩
  · rw [← hat] at h
    have hs := not_same_of_not_compatible (hu q.unit List.mem_cons_self v (by simp))
      (Bool.or_eq_false_iff.1 h).1
    exact ⟨_, run_convert_of_not_isConvertible hs h, rfl⟩
  · rw [ha] at hc ⊢
    obtain ⟨b, t, hb, -⟩ := hok hc
    exact ⟨b, t, hb⟩

/-- A function that computes the value in the unit that it leads to delivers in every session. -/
theorem delivers_direct (source target : Measure) (f : Float → Float) (id : Nat) (s : Session) :
    (Catalog.direct source target f).Delivers id s := fun _ _ _ _ => ⟨_, _, rfl, rfl⟩

/-- A quantity on the scale of Kelvin is converted to that of Celsius by the function that is
registered. -/
theorem convert_iff_isConvertible_kelvin_celsius :
    ∃ a s', (convert 0 ⟨300.0, Catalog.kelvin, 100⟩ Catalog.degreeCelsius).run
        (play [.create "scales", .addConversion 0 (Catalog.direct Catalog.kelvin
          Catalog.degreeCelsius fun x => x - Catalog.absoluteZeroCelsius)] (start true [])) =
        .ok a s' ∧ a.unit.same Catalog.degreeCelsius = true := by
  have hunits : Measure.Coherent [Catalog.kelvin, Catalog.degreeCelsius, Catalog.kelvin] := by
    simp [Measure.Coherent, Measure.same, Catalog.kelvin, Catalog.degreeCelsius]
  have hconvert := (convert_iff_isConvertible .standard true [] [.create "scales", .addConversion 0
    (Catalog.direct Catalog.kelvin Catalog.degreeCelsius fun x => x - Catalog.absoluteZeroCelsius)]
    _ rfl 0 _ rfl (fun c hc => by
      obtain rfl := List.mem_singleton.1 hc
      exact delivers_direct _ _ _ _ _) ⟨300.0, Catalog.kelvin, 100⟩ Catalog.degreeCelsius hunits).1
  obtain ⟨a, s', h, hsame, -⟩ := hconvert rfl
  exact ⟨a, s', h, hsame⟩

end Session

end Metrology
