import Mathlib.Logic.Basic
import Metrology.Proofs.Measure.Identity
import Metrology.Proofs.Table.Index
import Metrology.Registry.Basic

/-!
# The tables of a registry

The tables of a registry hold nothing that its list of units and the list of conversion functions
registered with it do not say. `Registry.Recorded` states this table by table; the lemmas below show
that a new registry has it and that each way to write to a registry keeps it.
-/

namespace Metrology

namespace Registry

/-- Every table of the registry is determined by its units, each of which it holds once, and by the
conversion functions registered with it, both in the order of registration. -/
structure Recorded (r : Registry) (conversions : List Conversion) : Prop where
  distinct : r.units.Pairwise fun a b => a.same b = false
  byName : r.byName.Indexes (fun m => m.name) r.units
  bySymbol : r.bySymbol.Indexes (fun m => m.symbol) r.units
  byDimension : r.byDimension.Groups (fun m => m.dimension) r.units
  conversions : r.conversions.Indexes Conversion.route conversions

@[simp] theorem units_empty (name : String) : (empty name).units = [] := rfl

@[simp] theorem resolvers_empty (name : String) : (empty name).resolvers = [] := rfl

/-- A new registry holds nothing. -/
theorem recorded_empty (name : String) : Recorded (.empty name) [] :=
  ⟨.nil, Table.indexes_empty _, Table.indexes_empty _, Table.groups_empty _, Table.indexes_empty _⟩

/-- A unit is registered when it is one of the units, since the serial numbers are theirs. -/
theorem isRegistered_iff {r : Registry} {m : Measure} :
    r.isRegistered m = true ↔ ∃ u ∈ r.units, u.same m = true := by
  rw [isRegistered, r.serials_eq]
  simp [Measure.same]

/-- Registering a unit again leaves the registry. -/
theorem register_of_isRegistered {r : Registry} {m : Measure} (h : r.isRegistered m = true) :
    r.register m = r := by
  simp [register, h]

/-- A unit that is not registered goes to the end of the units. -/
theorem units_register {r : Registry} {m : Measure} (h : r.isRegistered m = false) :
    (r.register m).units = r.units ++ [m] := by
  simp [register, h]

/-- Registering a unit removes none. -/
theorem units_prefix_register (r : Registry) (m : Measure) : r.units <+: (r.register m).units := by
  by_cases h : r.isRegistered m = true
  · refine ⟨[], ?_⟩
    rw [register_of_isRegistered h, List.append_nil]
  · rw [units_register (by simpa using h)]
    exact List.prefix_append _ _

/-- Registering a unit leaves the registry its name. -/
theorem name_register (r : Registry) (m : Measure) : (r.register m).name = r.name := by
  unfold register
  split <;> rfl

theorem resolvers_register (r : Registry) (m : Measure) :
    (r.register m).resolvers = r.resolvers := by
  unfold register
  split <;> rfl

/-- Registering a unit keeps the tables determined: all four that tell of units change together, or
none does. -/
theorem Recorded.register {r : Registry} {cs : List Conversion} (h : r.Recorded cs) (m : Measure) :
    (r.register m).Recorded cs := by
  by_cases hm : r.isRegistered m = true
  · rw [register_of_isRegistered hm]
    exact h
  · rw [Bool.not_eq_true] at hm
    -- it is not among the units, since it is not registered
    have hnew : ∀ u ∈ r.units, u.same m = false := by
      intro u hu
      refine Bool.eq_false_iff.2 fun hs => ?_
      rw [isRegistered_iff.2 ⟨u, hu, hs⟩] at hm
      cases hm
    simp only [Registry.register, hm]
    refine ⟨?_, h.byName.put m, h.bySymbol.put m, h.byDimension.update m, h.conversions⟩
    show (r.units ++ [m]).Pairwise _
    rw [List.pairwise_append]
    exact ⟨h.distinct, List.pairwise_singleton _ _, fun u hu v hv => by
      rw [List.mem_singleton.1 hv]
      exact hnew u hu⟩

/-- Registering a conversion function adds it to those that determine the table. -/
theorem Recorded.addConversion {r : Registry} {cs : List Conversion} (h : r.Recorded cs)
    (c : Conversion) : (r.addConversion c).Recorded (cs ++ [c]) :=
  ⟨h.distinct, h.byName, h.bySymbol, h.byDimension, h.conversions.put c⟩

/-- No table depends on the resolvers. -/
theorem Recorded.of_resolvers {r : Registry} {cs : List Conversion} (h : r.Recorded cs)
    (resolvers : List Resolver) : Recorded { r with resolvers } cs :=
  ⟨h.distinct, h.byName, h.bySymbol, h.byDimension, h.conversions⟩

/-! ## What a registry answers -/

/-- What a registry answers is determined by its units, each of which it holds once, and by the
conversion functions registered with it: a name and a symbol stand for the last unit that has them,
a dimension for all units that have it, in their order, and the dimensions are those of the units,
in the order of the first unit of each. Between two dimensions leads the function registered last.
-/
structure Determined (r : Registry) (conversions : List Conversion) : Prop where
  distinct : r.units.Pairwise fun a b => a.same b = false
  isRegistered : ∀ m, r.isRegistered m = true ↔ ∃ u ∈ r.units, u.same m = true
  byName : ∀ name, r.byName.get? name = (r.units.filter fun m => m.name = name).getLast?
  bySymbol : ∀ symbol, r.bySymbol.get? symbol = (r.units.filter fun m => m.symbol = symbol).getLast?
  unitsOf : ∀ d, r.unitsOf (some d) = r.units.filter fun m => m.dimension = d
  dimensions : r.dimensions = (r.units.map fun m => m.dimension).eraseDups
  routes : r.conversions.keys = (conversions.map Conversion.route).eraseDups
  conversion : ∀ route,
    r.conversions.get? route = (conversions.filter fun c => c.route = route).getLast?

/-- Tables that are in step are determined by the units and the conversion functions. -/
theorem Recorded.determined {r : Registry} {cs : List Conversion} (h : r.Recorded cs) :
    r.Determined cs := by
  refine ⟨h.distinct, fun _ => isRegistered_iff, h.byName.get?, h.bySymbol.get?,
    h.byDimension.get?, h.byDimension.keys, ?_, h.conversions.get?⟩
  rw [lawful_beq_subsingleton instBEqProd instBEqOfDecidableEq]
  exact h.conversions.keys

/-- The unit that stands for a name is registered. -/
theorem Recorded.isRegistered_of_byName {r : Registry} {cs : List Conversion} (h : r.Recorded cs)
    {name : String} {m : Measure} (hm : r.byName.get? name = some m) : r.isRegistered m = true := by
  rw [h.byName.get? name] at hm
  have hu := (List.mem_filter.1 (List.mem_of_getLast? hm)).1
  exact isRegistered_iff.2 ⟨m, hu, m.same_refl⟩

/-- A unit that is registered anew stands for its name. -/
theorem byName_register {r : Registry} {m : Measure} (h : r.isRegistered m = false) :
    (r.register m).byName.get? m.name = some m := by
  rw [register, if_neg (by simp [h])]
  exact Table.get?_put_self _ _ _

/-- A unit is registered once it was registered. -/
theorem isRegistered_register (r : Registry) (m : Measure) :
    (r.register m).isRegistered m = true := by
  by_cases h : r.isRegistered m = true
  · rw [register_of_isRegistered h]
    exact h
  · rw [isRegistered_iff, units_register (by simpa using h)]
    exact ⟨m, by simp, m.same_refl⟩

end Registry

end Metrology
