import Metrology.Proofs.Session.Comparison
import Metrology.Proofs.Session.Counting
import Metrology.Session.Standard

/-!
# Converting between temperature scales

Between the scales of Fahrenheit and Kelvin a function leads that has its argument converted to
degrees Celsius and the outcome to the other scale, by the registry that called it. Converting in
one step by that function comes to the same as converting to degrees Celsius and from there to the
target (`Session.convert_by_way_of_celsius`): both ways rescale to the unit of the first scale once,
apply the same two functions, and rescale from the unit of the other scale once. Only the meters
tell them apart, since the function on the direct way is counted as well.
-/

namespace Metrology

open Session

/-- Conversion functions of the registry lead from one scale to another, and to and from a third
scale between them, by way of which the first function goes. The scales have different dimensions.
-/
structure Registry.Bridged (r : Registry) (base middle other : Measure) (f g : Float → Float) :
    Prop where
  first : r.conversions.get? (base.dimension, middle.dimension) =
    some (Catalog.direct base middle f)
  second : r.conversions.get? (middle.dimension, other.dimension) =
    some (Catalog.direct middle other g)
  across : r.conversions.get? (base.dimension, other.dimension) =
    some (Catalog.through middle base other)
  base_ne_middle : base.dimension ≠ middle.dimension
  middle_ne_other : middle.dimension ≠ other.dimension
  base_ne_other : base.dimension ≠ other.dimension

namespace Quantity

variable {q : Quantity} {v : Measure}

/-- A quantity is expressed in the very unit that was asked for. -/
theorem unit_expressed (h : q.unit.same v = true → q.unit = v) (serial : Nat) :
    (q.expressed v serial).unit = v := by
  unfold expressed
  split
  · exact h ‹_›
  · rfl

end Quantity

namespace Session

variable {α β : Type} {id depth : Nat} {q : Quantity} {v : Measure} {s t : Session}
  {l l' : List Event}

/-- A quantity is converted to a unit, directly and by way of another unit, from the same session
on. Both ways succeed in the very unit that is asked for and have the same value; where the meters
are on, three conversions by functions are counted on the direct way and two on the other, and
nothing else. -/
def AgreesByWayOf (s : Session) (id : Nat) (middle : Measure) (q : Quantity) (v : Measure) : Prop :=
  ∃ a t c t₁ b t₂,
    (convert id q v).run s = .ok a t ∧
    (convert id q middle).run s = .ok c t₁ ∧ (convert id c v).run t₁ = .ok b t₂ ∧
    a.value = b.value ∧ a.unit = v ∧ c.unit = middle ∧ b.unit = v ∧
    (s.meters.enabled = true →
      Meters.Tallied (List.replicate 3 (.conversion .function)) s.meters t.meters ∧
      Meters.Tallied (List.replicate 2 (.conversion .function)) s.meters t₂.meters)

/-! ## Operations that count -/

/-- The operation answers with something that has the property, counting the events and no others;
apart from that only the serial numbers and the journal move on. -/
def Counts (l : List Event) (x : SessionM α) (s : Session) (P : α → Prop) : Prop :=
  ∃ a t, x.run s = .ok a t ∧ P a ∧ s.Beside t ∧ t.meters = l.foldl Meters.count s.meters

theorem counts_pure {P : α → Prop} {a : α} (h : P a) (s : Session) : Counts [] (pure a) s P :=
  ⟨a, s, rfl, h, .refl s, rfl⟩

/-- What is done after other things is counted after them. -/
theorem Counts.bind {x : SessionM α} {f : α → SessionM β} {P : α → Prop} {Q : β → Prop}
    (hx : Counts l x s P) (hf : ∀ a t, P a → s.Beside t → Counts l' (f a) t Q) :
    Counts (l ++ l') (x >>= f) s Q := by
  obtain ⟨a, t, ht, ha, hst, hmeters⟩ := hx
  obtain ⟨b, u, hu, hb, htu, hmeters'⟩ := hf a t ha hst
  refine ⟨b, u, (run_bind_of_ok ht f).trans hu, hb, hst.trans htu, ?_⟩
  rw [hmeters', hmeters, List.foldl_append]

/-- Less may be said of an answer. -/
theorem Counts.imp {x : SessionM α} {P Q : α → Prop} (h : Counts l x s P)
    (hPQ : ∀ a, P a → Q a) : Counts l x s Q := by
  obtain ⟨a, t, ht, ha, hrest⟩ := h
  exact ⟨a, t, ht, hPQ a ha, hrest⟩

theorem counts_note (n : Note) (s : Session) : Counts [] (note n) s fun _ => True :=
  ⟨(), _, rfl, trivial, beside_note n s, rfl⟩

/-- Making a quantity counts nothing. -/
theorem counts_quantity (value : Float) (unit : Measure) (s : Session) :
    Counts [] (quantity value unit) s fun q => q = ⟨value, unit, q.serial⟩ :=
  ⟨_, _, rfl, rfl, ⟨Nat.le_succ _, rfl⟩, rfl⟩

theorem counts_registry (id : Nat) (s : Session) :
    Counts [] (registry id) s fun r => r = s.registryAt id :=
  ⟨_, s, rfl, rfl, .refl s, rfl⟩

/-- A conversion that succeeds is counted by its path, behind what is counted on the way. -/
theorem Counts.counted {x : SessionM (Quantity × Path)} {path : Path} {P : Quantity → Prop}
    (h : Counts l x s fun r => r.2 = path ∧ P r.1) :
    Counts (l ++ [.conversion path]) (counted x) s P := by
  obtain ⟨⟨r, path'⟩, t, ht, ⟨rfl, hr⟩, hst, hmeters⟩ := h
  refine ⟨r, _, run_counted_of_ok ht, hr, hst.trans (beside_count _ t), ?_⟩
  rw [List.foldl_append, ← hmeters]
  rfl

/-- What the conversion counts that may go as deep as the facilities allow. -/
theorem Counts.convert {depth : Nat} {P : Quantity → Prop}
    (h : Counts l (Session.counted (convertWithin id depth q v)) s P)
    (hdepth : s.facilities.deepest = depth) : Counts l (Session.convert id q v) s P := by
  subst hdepth
  exact h

/-- Where the meters are on, the events are counted as often as they are listed. -/
theorem tallied_foldl_count {m : Meters} (h : m.enabled = true) (l : List Event) :
    Meters.Tallied l m (l.foldl Meters.count m) := by
  induction l generalizing m with
  | nil => exact Meters.tallied_nil h
  | cons e l ih =>
    have hfirst := Meters.tallied_count h e
    exact hfirst.append (ih hfirst.enabled)

/-! ## Conversions by functions -/

/-- Within a dimension nothing is counted on the way. -/
theorem counts_convertWithin_of_compatible (id depth : Nat) (s : Session)
    (h : q.unit.dimension = v.dimension) :
    Counts [] (convertWithin id (depth + 1) q v) s fun r => ∃ n, r.1 = q.expressed v n := by
  unfold convertWithin Quantity.expressed
  by_cases hs : q.unit.same v = true
  · simp only [if_pos hs]
    exact counts_pure ⟨0, rfl⟩ s
  · simp only [if_neg hs, if_pos (Measure.compatible_iff.2 h)]
    suffices hall : Counts ([] ++ []) _ s _ from hall
    exact (counts_quantity _ v s).bind fun r t hr _ => counts_pure ⟨r.serial, hr⟩ t

/-- Between dimensions, the function for them is applied to the quantity in the unit that it takes,
and what it answers is expressed in the target. -/
theorem counts_convertWithin_of_some (depth : Nat) {c : Conversion} {P : Quantity → Prop}
    (hs : q.unit.same v = false) (hv : q.unit.dimension ≠ v.dimension)
    (hc : (s.registryAt id).conversions.get? (q.unit.dimension, v.dimension) = some c)
    (hsource : q.unit.dimension = c.source.dimension)
    (htarget : ∀ a, P a → a.unit.dimension = v.dimension)
    (hrun : ∀ n t, s.Beside t → Counts l
      (run (fun q v => counted (convertWithin id (depth + 1) q v))
        (c.apply (q.expressed c.source n))) t P) :
    Counts l (convertWithin id (depth + 2) q v) s fun r =>
      r.2 = .function ∧ ∃ a n, P a ∧ r.1 = a.expressed v n := by
  have hcompatible : q.unit.compatible v.toDenomination = false := by
    rw [← Bool.not_eq_true, Measure.compatible_iff]
    exact hv
  have hfound : (s.registryAt id).conversion? q.unit v = some c := hc
  unfold convertWithin
  rw [hs, hcompatible, if_neg (by decide), if_neg (by decide)]
  suffices hall : Counts ([] ++ ([] ++ (([] ++ l) ++ ([] ++ [])))) _ s _ by
    simpa only [List.nil_append, List.append_nil] using hall
  refine (counts_registry id s).bind fun r t hr hst => ?_
  rw [hr, hfound]
  refine (counts_convertWithin_of_compatible id depth t hsource).bind fun argument u ha htu => ?_
  obtain ⟨n, hn⟩ := ha
  have hcalled : Counts ([] ++ l) (apply (fun q v => counted (convertWithin id (depth + 1) q v)) c
      argument.1) u P := by
    refine (counts_note _ u).bind fun _ w _ huw => ?_
    rw [hn]
    exact hrun n w (hst.trans (htu.trans huw))
  refine hcalled.bind fun a w ha huw => ?_
  refine (counts_convertWithin_of_compatible id depth w (htarget a ha)).bind fun r x hr _ => ?_
  obtain ⟨n, hn⟩ := hr
  exact counts_pure ⟨rfl, a, n, ha, hn⟩ x

section

variable {base middle other : Measure} {f g : Float → Float}

/-- A function that computes its answer does so from the value in the unit that it takes. -/
theorem counts_convertWithin_direct (hsame : q.unit.same v = true → q.unit = v)
    (hc : (s.registryAt id).conversions.get? (q.unit.dimension, v.dimension) =
      some (Catalog.direct base other f))
    (hbase : q.unit.dimension = base.dimension) (hother : other.dimension = v.dimension)
    (hne : q.unit.dimension ≠ v.dimension) :
    Counts [] (convertWithin id (depth + 2) q v) s fun r =>
      r.2 = .function ∧ ∃ n m, r.1 = Quantity.expressed ⟨f (q.valueIn base), other, n⟩ v m := by
  have hs : q.unit.same v = false := by
    rw [← Bool.not_eq_true]
    exact fun h => hne (congrArg (·.dimension) (hsame h))
  have hanswered := counts_convertWithin_of_some depth
    (P := fun a => a = ⟨f (q.valueIn base), other, a.serial⟩) hs hne hc hbase
    (fun a ha => by rw [ha]; exact hother) fun n t _ => by
      rw [← q.value_expressed base n]
      exact counts_quantity _ other t
  refine hanswered.imp fun r ⟨hpath, a, m, ha, hr⟩ => ⟨hpath, a.serial, m, ?_⟩
  rw [hr]
  exact congrArg (Quantity.expressed · v m) ha

/-- The same in a unit that is asked for, counted as one conversion. -/
theorem counts_direct (depth : Nat) (hsame : q.unit.same v = true → q.unit = v)
    (hsame' : other.same v = true → other = v)
    (hc : (s.registryAt id).conversions.get? (base.dimension, other.dimension) =
      some (Catalog.direct base other f))
    (hbase : q.unit.dimension = base.dimension) (hother : v.dimension = other.dimension)
    (hne : base.dimension ≠ other.dimension) :
    Counts [.conversion .function] (counted (convertWithin id (depth + 2) q v)) s fun r =>
      r.value = Quantity.valueIn ⟨f (q.valueIn base), other, 0⟩ v ∧ r.unit = v := by
  rw [← hbase, ← hother] at hne hc
  refine Counts.counted (l := [])
    ((counts_convertWithin_direct hsame hc hbase hother.symm hne).imp ?_)
  rintro r ⟨hpath, n, m, hr⟩
  rw [hr]
  exact ⟨hpath, Quantity.value_expressed _ v m, Quantity.unit_expressed hsame' m⟩

variable {r : Registry} (hb : r.Bridged base middle other f g)
include hb

/-- The function that goes by way of the scale between has two conversions made. -/
theorem counts_run_through (hr : s.registryAt id = r)
    (hu : Measure.Coherent [base, middle, other]) (hq : q.unit = base) :
    Counts (List.replicate 2 (.conversion .function))
      (run (fun q v => counted (convertWithin id (depth + 2) q v))
        ((Catalog.through middle base other).apply q)) s fun a =>
      a.value = g (f q.value) ∧ a.unit = other := by
  have hmiddle : q.unit.same middle = true → q.unit = middle := by
    rw [hq]
    exact hu base (by simp) middle (by simp)
  have hother : middle.same other = true → middle = other := hu middle (by simp) other (by simp)
  have hfirst := counts_direct depth hmiddle (fun _ => rfl) (hr ▸ hb.first)
    (congrArg (·.dimension) hq) rfl hb.base_ne_middle
  show Counts ([.conversion .function] ++ ([.conversion .function] ++ [])) _ s _
  refine hfirst.bind fun c t ⟨hvalue, hunit⟩ hst => ?_
  have ht := (registryAt_congr hst.registries id).trans hr
  refine (counts_direct depth (hunit ▸ hother) (fun _ => rfl) (ht ▸ hb.second)
    (congrArg (·.dimension) hunit) rfl hb.middle_ne_other).bind fun a u ⟨hvalue', hunit'⟩ _ => ?_
  refine counts_pure ⟨?_, hunit'⟩ u
  have hc : c.valueIn middle = f q.value := by
    rw [← hunit, c.valueIn_unit, hvalue, ← hq, q.valueIn_unit]
    exact Quantity.valueIn_unit ⟨_, middle, 0⟩
  rw [hvalue', hc]
  exact Quantity.valueIn_unit ⟨_, other, 0⟩

/-- A function that goes by way of a third unit is counted behind the two conversions that it has
made. -/
theorem counts_through (hr : s.registryAt id = r)
    (hu : Measure.Coherent [q.unit, v, base, middle, other])
    (hbase : q.unit.dimension = base.dimension) (hother : v.dimension = other.dimension) :
    Counts (List.replicate 3 (.conversion .function))
      (counted (convertWithin id (depth + 3) q v)) s fun r =>
        r.value = Quantity.valueIn ⟨g (f (q.valueIn base)), other, 0⟩ v ∧ r.unit = v := by
  have hsame : ∀ {a b : Measure}, a ∈ [q.unit, v, base, middle, other] →
      b ∈ [q.unit, v, base, middle, other] → a.same b = true → a = b := fun ha hb => hu _ ha _ hb
  have hne : q.unit.dimension ≠ v.dimension := by
    rw [hbase, hother]
    exact hb.base_ne_other
  have hs : q.unit.same v = false := by
    rw [← Bool.not_eq_true]
    exact fun h => hne (congrArg (·.dimension) (hsame (by simp) (by simp) h))
  have hacross := hb.across
  rw [← hr, ← hbase, ← hother] at hacross
  refine Counts.counted (l := List.replicate 2 (.conversion .function))
    ((counts_convertWithin_of_some _
      (P := fun a => a.value = g (f (q.valueIn base)) ∧ a.unit = other) hs hne hacross hbase
      (fun a ha => by rw [ha.2, hother]) fun n t hst => ?_).imp ?_)
  · have ht := (registryAt_congr hst.registries id).trans hr
    have hunit : (q.expressed base n).unit = base :=
      Quantity.unit_expressed (hsame (by simp) (by simp)) n
    rw [← q.value_expressed base n]
    exact counts_run_through hb ht (hu.mono (by simp)) hunit
  · rintro a ⟨hpath, a', n, ⟨hvalue, hunit⟩, ha⟩
    refine ⟨hpath, ?_, ?_⟩
    · rw [ha, Quantity.value_expressed, ← hvalue, ← hunit]
      rfl
    · rw [ha]
      exact Quantity.unit_expressed (by rw [hunit]; exact hsame (by simp) (by simp)) n

/-- Both ways lead to the same value: the functions are applied to the same numbers. -/
theorem agreesByWayOf (hr : s.registryAt id = r)
    (hu : Measure.Coherent [q.unit, v, base, middle, other])
    (hbase : q.unit.dimension = base.dimension) (hother : v.dimension = other.dimension) :
    AgreesByWayOf s id middle q v := by
  obtain ⟨depth, hdepth⟩ : ∃ depth, s.facilities.deepest = depth + 3 :=
    Nat.exists_eq_add_of_le' s.facilities.room
  obtain ⟨a, t, ha, ⟨hvalue, hunit⟩, -, hmeters⟩ :=
    (counts_through hb hr hu hbase hother).convert hdepth
  have hmiddle : q.unit.same middle = true → q.unit = middle := hu _ (by simp) _ (by simp)
  have hlast : other.same v = true → other = v := hu _ (by simp) _ (by simp)
  obtain ⟨c, t₁, hc, ⟨hvalue₁, hunit₁⟩, hst, hmeters₁⟩ := (counts_direct (depth + 1) hmiddle
    (fun _ => rfl) (hr ▸ hb.first) hbase rfl hb.base_ne_middle).convert hdepth
  have ht₁ := (registryAt_congr hst.registries id).trans hr
  have hnext : c.unit.same v = true → c.unit = v := hunit₁ ▸ hu _ (by simp) _ (by simp)
  obtain ⟨b, t₂, hb', ⟨hvalue₂, hunit₂⟩, -, hmeters₂⟩ := (counts_direct (depth + 1) hnext hlast
    (ht₁ ▸ hb.second) (congrArg (·.dimension) hunit₁) hother hb.middle_ne_other).convert
      (hst.facilities ▸ hdepth)
  have hcelsius : c.valueIn middle = f (q.valueIn base) := by
    rw [← hunit₁, c.valueIn_unit, hvalue₁]
    exact Quantity.valueIn_unit ⟨_, middle, 0⟩
  refine ⟨a, t, c, t₁, b, t₂, ha, hc, hb', ?_, hunit, hunit₁, hunit₂, fun hs => ⟨?_, ?_⟩⟩
  · rw [hvalue, hvalue₂, hcelsius]
  · rw [hmeters]
    exact tallied_foldl_count hs _
  · rw [hmeters₂, hmeters₁]
    exact tallied_foldl_count hs (List.replicate 2 (.conversion .function))

end

/-- Where a registry holds the six functions between the temperature scales, quantities in any unit
of the dimension of Fahrenheit are converted to any unit of that of Kelvin, and the other way round,
exactly as by way of degrees Celsius. -/
theorem convert_by_way_of_celsius (s : Session) (id : Nat) (r : Registry)
    (hr : s.registryAt id = r)
    (hc : ∀ c ∈ Catalog.temperatureConversions, r.conversions.get? c.route = some c)
    (q : Quantity) (v : Measure)
    (hu : Measure.Coherent [q.unit, v, Catalog.degreeFahrenheit, Catalog.degreeCelsius,
      Catalog.kelvin])
    (hscales :
      q.unit.dimension = Catalog.degreeFahrenheit.dimension ∧
        v.dimension = Catalog.kelvin.dimension ∨
      q.unit.dimension = Catalog.kelvin.dimension ∧
        v.dimension = Catalog.degreeFahrenheit.dimension) :
    AgreesByWayOf s id Catalog.degreeCelsius q v := by
  obtain ⟨hbase, hother⟩ | ⟨hbase, hother⟩ := hscales
  · have hb : r.Bridged Catalog.degreeFahrenheit Catalog.degreeCelsius Catalog.kelvin
        (fun x => (x - 32.0) / 9.0 * 5.0) (fun x => x + Catalog.absoluteZeroCelsius) :=
      ⟨hc _ (.tail _ (.head _)), hc _ (.tail _ (.tail _ (.head _))),
        hc _ (.tail _ (.tail _ (.tail _ (.tail _ (.head _))))), by decide, by decide, by decide⟩
    exact agreesByWayOf hb hr hu hbase hother
  · have hb : r.Bridged Catalog.kelvin Catalog.degreeCelsius Catalog.degreeFahrenheit
        (fun x => x - Catalog.absoluteZeroCelsius) (fun x => x * 9.0 / 5.0 + 32.0) :=
      ⟨hc _ (.tail _ (.tail _ (.tail _ (.head _)))), hc _ (.head _),
        hc _ (.tail _ (.tail _ (.tail _ (.tail _ (.tail _ (.head _)))))), by decide, by decide,
        by decide⟩
    exact agreesByWayOf hb hr (hu.mono (by simp)) hbase hother

/-- Doubled degrees of Fahrenheit and hundredths of a Kelvin, in both directions. -/
theorem convert_by_way_of_celsius_scaled :
    let s := play [.create "scales", .registerTemperatureConversions 0] (start true [])
    let doubled : Measure :=
      ⟨.declare "doubled" "2°F" 2.0 Catalog.degreeFahrenheit.dimension, 200⟩
    let hundredth : Measure := ⟨.declare "centikelvin" "cK" 0.01 Catalog.kelvin.dimension, 201⟩
    AgreesByWayOf s 0 Catalog.degreeCelsius ⟨106.0, doubled, 202⟩ hundredth ∧
      AgreesByWayOf s 0 Catalog.degreeCelsius ⟨30000.0, hundredth, 203⟩ doubled := by
  intro s doubled hundredth
  have hc : ∀ c ∈ Catalog.temperatureConversions,
      (s.registryAt 0).conversions.get? c.route = some c := by
    intro c hc
    simp only [Catalog.temperatureConversions, List.mem_cons, List.not_mem_nil, or_false] at hc
    obtain rfl | rfl | rfl | rfl | rfl | rfl := hc
    all_goals rfl
  have hu : Measure.Coherent [doubled, hundredth, Catalog.degreeFahrenheit, Catalog.degreeCelsius,
      Catalog.kelvin] := by
    simp [Measure.Coherent, Measure.same, doubled, hundredth, Catalog.degreeFahrenheit,
      Catalog.degreeCelsius, Catalog.kelvin]
  exact ⟨convert_by_way_of_celsius s 0 _ rfl hc _ hundredth hu (.inl ⟨rfl, rfl⟩),
    convert_by_way_of_celsius s 0 _ rfl hc _ doubled (hu.mono (by simp)) (.inr ⟨rfl, rfl⟩)⟩

end Session

end Metrology
