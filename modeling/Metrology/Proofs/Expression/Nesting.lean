import Metrology.Proofs.Registry.Standard
import Metrology.Session.Standard

/-!
# What nesting does to a symbol

Whatever compound is made of standard units, the standard registry reads its symbol as the compound
that is made of the same atoms from left to right (`parseUnit_compound`). This has the dimension of
the first one where every divisor and every base of a power is a single atom (`Compound.Flat`).
Other compounds may be read as something else: nothing in the symbol of the square of kilometers per
hour says that the kilometers are squared too (`not_forall_parseUnit_dimension`).
-/

namespace Metrology

open Session

/-! ## Dimensions from left to right -/

namespace Chain

variable (c d : Chain Atom)

/-- The dimension of the atoms, joined from left to right. -/
def dimension : Dimension :=
  c.leftNested.denomination.dimension

/-- The dimension of a chain of units is the sum of those of its units, with signs. -/
theorem vector_dimension : c.dimension.vector =
    (one c.head).dimension.vector +
      (c.tail.map fun step => step.1.sign • (one step.2).dimension.vector).sum := by
  have hone : ∀ a, (one a).dimension = a.derived.denomination.dimension := fun a =>
    congrArg Denomination.dimension a.denomination_compound
  simp only [hone]
  rw [dimension, denomination_leftNested, words, map_map, evaluate, head_map, tail_map,
    Operand.vector_evaluate, List.map_map]
  rfl

/-- An appended chain counts its units with their own signs, but for the first one, which gets the
sign of the join. -/
theorem vector_dimension_append (join : Join) : (c.append join d).dimension.vector =
    c.dimension.vector + (join.sign • (one d.head).dimension.vector +
      (d.tail.map fun step => step.1.sign • (one step.2).dimension.vector).sum) := by
  rw [vector_dimension, head_append, tail_append, List.map_append, List.sum_append, List.map_cons,
    List.sum_cons, ← add_assoc, ← vector_dimension]

/-- Multiplying by a chain of atoms multiplies by each of them. -/
theorem dimension_times : (c.append .times d).dimension = c.dimension * d.dimension := by
  rw [← Dimension.vector_inj, vector_dimension_append, Join.sign, one_smul, ← vector_dimension,
    Dimension.vector_mul]

/-- Behind a division, only the first atom divides. -/
theorem dimension_per_one (a : Atom) :
    (c.append .per (one a)).dimension = c.dimension / (one a).dimension := by
  rw [← Dimension.vector_inj, vector_dimension_append, head, tail, List.map_nil, List.sum_nil,
    add_zero, Join.sign, neg_one_smul, ← sub_eq_add_neg, Dimension.vector_div]

end Chain

/-! ## Flat compounds -/

namespace Compound

/-- Every divisor and every base of a power is a single atom. -/
def Flat (leaf : Measure → Chain Atom) : Compound → Prop
  | given _ => True
  | joined a .times b => a.Flat leaf ∧ b.Flat leaf
  | joined a .per b => a.Flat leaf ∧ b.Flat leaf ∧ ∃ x, b.chain leaf = .one x
  | power a _ => a.Flat leaf ∧ ∃ x, a.chain leaf = .one x

/-- A flat compound has the dimension of its atoms from left to right. -/
theorem dimension_of_flat {leaf : Measure → Chain Atom} {c : Compound}
    (hleaf : ∀ m ∈ c.units, (leaf m).dimension = m.dimension) (h : c.Flat leaf) :
    (c.chain leaf).dimension = c.denomination.dimension := by
  induction c with
  | given m => exact hleaf m List.mem_cons_self
  | joined a join b iha ihb =>
    have ha := iha fun m hm => hleaf m (List.mem_append_left _ hm)
    have hb := ihb fun m hm => hleaf m (List.mem_append_right _ hm)
    cases join with
    | times =>
      obtain ⟨hfa, hfb⟩ := h
      rw [chain, Chain.dimension_times, ha hfa, hb hfb]
      rfl
    | per =>
      -- only a single unit is divided by, since the text has no brackets
      obtain ⟨hfa, hfb, x, hx⟩ := h
      rw [chain, hx, Chain.dimension_per_one, ← hx, ha hfa, hb hfb]
      rfl
  | power a n ih =>
    -- only a single unit is raised to a power
    obtain ⟨hfa, x, hx⟩ := h
    have hpower : (Chain.one (x.power n)).dimension = (Chain.one x).dimension ^ n.val := rfl
    rw [chain, hx, Chain.changeLast, hpower, ← hx, ih hleaf hfa]
    rfl

/-- The atoms of a compound are those of its units, with powers. -/
theorem forall_chain {P : Atom → Prop} (hpower : ∀ a n, P a → P (a.power n))
    {leaf : Measure → Chain Atom} {c : Compound}
    (hleaf : ∀ m ∈ c.units, ∀ a ∈ (leaf m).items, P a) :
    ∀ a ∈ (c.chain leaf).items, P a := by
  induction c with
  | given m => exact hleaf m List.mem_cons_self
  | joined a join b iha ihb =>
    intro x hx
    rw [chain, Chain.items_append] at hx
    rcases List.mem_append.1 hx with hx | hx
    · exact iha (fun m hm => hleaf m (List.mem_append_left _ hm)) x hx
    · exact ihb (fun m hm => hleaf m (List.mem_append_right _ hm)) x hx
  | power a n ih => exact Chain.forall_items_changeLast (fun x hx => hpower x n hx) (ih hleaf)

end Compound

/-- The symbol of a standard unit lists atoms with its dimension. -/
theorem Catalog.dimension_spelling {m : Measure} (hm : m ∈ allUnits) :
    (spelling m).dimension = m.dimension := by
  unfold spelling
  cases hq : quotient? m with
  | none => rfl
  | some p => exact (of_quotient m hm p hq).1.symm

namespace Session

/-! ## Reading compounds -/

/-- The symbol of a compound of standard units is read as its atoms from left to right. -/
theorem run_parseUnit_compound {name : String} {c : Compound}
    (hc : ∀ m ∈ c.units, m ∈ Catalog.allUnits) {s : Session} {o : Option Nat} {id : Nat}
    (hs : s.Addresses o id (Registry.standard name)) :
    ∃ m t, (parseUnit o c.denomination.symbol).run s = .ok m t ∧
      m.toDenomination = (c.chain Catalog.spelling).leftNested.denomination ∧ s.Beside t := by
  have hreads : ∀ w ∈ ((c.chain Catalog.spelling).words none).items,
      (Registry.standard name).Reads w := by
    intro w hw
    rw [Chain.words, Chain.items_map] at hw
    obtain ⟨a, ha, rfl⟩ := List.mem_map.1 hw
    have helementary := Compound.forall_chain (P := fun a => Catalog.Elementary a.base)
      (fun _ _ h => h) (fun m hm => Catalog.elementary_spelling (hc m hm)) a ha
    exact .atom (Registry.spells_standard helementary)
  have hspelled := Compound.spelled_denomination fun m hm => Catalog.spelled_spelling (hc m hm)
  have hwords : ((c.chain Catalog.spelling).words none).map Word.text =
      (c.chain Catalog.spelling).map Atom.text := Chain.map_map _ _ _
  rw [← hwords] at hspelled
  obtain ⟨m, t, hm, hdenomination, hst⟩ := run_parseUnit_symbol hs hreads hspelled
  exact ⟨m, t, hm, hdenomination.trans (Chain.denomination_leftNested _).symm, hst⟩

/-- The symbol of a compound of standard units is read with the standard registry. The unit that it
is read as is the compound that is made of the same atoms from left to right, and if the compound is
flat, this is a unit of its dimension. -/
theorem parseUnit_compound (name : String) (c : Compound) (hc : ∀ m ∈ c.units, m ∈ Catalog.allUnits)
    (s : Session) (o : Option Nat) (id : Nat) (hs : s.Addresses o id (Registry.standard name)) :
    ∃ w t m u, c.make.run s = .ok w t ∧ (parseUnit o w.symbol).run t = .ok m u ∧
      m.toDenomination = (c.chain Catalog.spelling).leftNested.denomination ∧
      (c.Flat Catalog.spelling → m.dimension = w.dimension) ∧ u.registries = s.registries := by
  obtain ⟨w, t, hw, hmade, hst⟩ := run_make c s
  obtain ⟨m, u, hm, hread, htu⟩ := run_parseUnit_compound hc (hs.later hst)
  rw [← hmade] at hm
  refine ⟨w, t, m, u, hw, hm, hread, fun hflat => ?_, (hst.trans htu).registries⟩
  rw [hread, hmade]
  exact Compound.dimension_of_flat (fun m hm => Catalog.dimension_spelling (hc m hm)) hflat

/-- The symbol of a joule per square second is read as a unit of its dimension. -/
theorem parseUnit_compound_joule_per_second_squared :
    ∃ w t m u, (Compound.joined (.given Catalog.joule) .per
        (.power (.given Catalog.second) .two)).make.run
          (after standingRegistry (start true [])) = .ok w t ∧
      (parseUnit none w.symbol).run t = .ok m u ∧ m.dimension = w.dimension := by
  obtain ⟨w, t, m, u, hw, hm, -, hdimension, -⟩ := parseUnit_compound "default"
    (.joined (.given Catalog.joule) .per (.power (.given Catalog.second) .two))
    (by
      intro m hm
      rcases List.mem_cons.1 hm with rfl | hm
      · exact List.mem_of_getElem? (i := 40) rfl
      · obtain rfl := List.mem_singleton.1 hm
        exact List.mem_of_getElem? (i := 20) rfl)
    (after standingRegistry (start true [])) none 0 (addresses_start true)
  exact ⟨w, t, m, u, hw, hm, hdimension ⟨trivial, ⟨trivial, _, rfl⟩, _, rfl⟩⟩

/-- Not every symbol of a compound is read with its dimension: that of the square of kilometers per
hour is read as kilometers per square hour. -/
theorem not_forall_parseUnit_dimension :
    ¬∀ (c : Compound), (∀ m ∈ c.units, m ∈ Catalog.allUnits) →
      ∀ (s : Session) (o : Option Nat) (id : Nat),
        s.Addresses o id (Registry.standard "default") →
        ∃ w t m u, c.make.run s = .ok w t ∧ (parseUnit o w.symbol).run t = .ok m u ∧
          m.dimension = w.dimension := by
  intro h
  -- the square of a quotient is written as if only its divisor were squared
  let c : Compound := .power (.given Catalog.kilometerPerHour) .two
  have hc : ∀ m ∈ c.units, m ∈ Catalog.allUnits := by
    intro m hm
    obtain rfl := List.mem_singleton.1 hm
    exact List.mem_of_getElem? (i := 37) rfl
  have hs := addresses_start true
  obtain ⟨w, t, m, u, hw, hm, hdimension⟩ := h c hc _ none 0 hs
  obtain ⟨w', t', hw', hmade, hst⟩ := run_make c (after standingRegistry (start true []))
  obtain ⟨rfl, rfl⟩ := EStateM.Result.ok.inj (hw'.symm.trans hw)
  obtain ⟨m', u', hm', hread, -⟩ := run_parseUnit_compound hc (hs.later hst)
  rw [← hmade] at hm'
  obtain ⟨rfl, rfl⟩ := EStateM.Result.ok.inj (hm'.symm.trans hm)
  rw [hread, hmade] at hdimension
  revert hdimension
  decide +kernel

end Session

end Metrology
