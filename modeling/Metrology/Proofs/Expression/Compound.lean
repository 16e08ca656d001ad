import Metrology.Session.Operator
import Metrology.Catalog.Units
import Metrology.Proofs.Expression.Spelling
import Metrology.Session.Standard

/-!
# Compounds and their symbols

A compound is made from units by multiplying, dividing and raising, in any nesting. Its symbol tells
nothing of the nesting: it lists the atoms in order, with the operators before them, and a power
behind it belongs to the last atom (`Compound.spelled_denomination`). Expressions are read from left
to right, so a compound that is nested to the left is read back, in every respect and with a number
in front if there is one (`readsBack_leftNested`).
-/

namespace Metrology

open Session

/-- The operator on units that a join stands for. -/
def Join.operator : Join → Operator
  | .times => .multiply
  | .per => .divide

/-- What a join makes of two units. -/
def Join.combine : Join → Denomination → Denomination → Denomination
  | .times => Denomination.mul
  | .per => Denomination.div

/-- A multiple of a unit, where a number is given. -/
def Derived.scaled : Option Float → Derived → Derived
  | none, u => u
  | some k, u => u.times k

/-- A unit made from others by the operators. -/
inductive Compound where
  | given (m : Measure)
  | joined (a : Compound) (join : Join) (b : Compound)
  | power (a : Compound) (n : Exponent)

namespace Session

/-- The unit that an operator answers. -/
def unitOf : Answer → SessionM Measure
  | .unit m => pure m
  | _ => throw .wrongKind

/-- A number times a unit, where a number is given. -/
def scaled : Option Float → Measure → SessionM Measure
  | none, m => pure m
  | some k, m => operate .multiply (.scalar (.real k)) (.unit m) >>= unitOf

end Session

namespace Compound

/-- Make a compound by the operators, from left to right. -/
def make : Compound → SessionM Measure
  | given m => pure m
  | joined a join b => do
    let l ← a.make
    let r ← b.make
    operate join.operator (.unit l) (.unit r) >>= unitOf
  | power a n => do raise (.unit (← a.make)) n >>= unitOf

/-- What the compound is called and what it is worth. -/
def denomination : Compound → Denomination
  | given m => m.toDenomination
  | joined a join b => join.combine a.denomination b.denomination
  | power a n => a.denomination.pow n

/-- The units that a compound is made from. -/
def units : Compound → List Measure
  | given m => [m]
  | joined a _ b => a.units ++ b.units
  | power a _ => a.units

/-- The atoms in the order in which a symbol lists them, where `leaf` says how the symbols of the
units are made of atoms. -/
def chain (leaf : Measure → Chain Atom) : Compound → Chain Atom
  | given m => leaf m
  | joined a join b => (a.chain leaf).append join (b.chain leaf)
  | power a n => (a.chain leaf).changeLast (·.power n)

end Compound

/-- Joining two units joins what they spell out. -/
theorem Denomination.Spelled.combine {a b : Denomination} {c d : Chain (List Char)}
    (ha : a.Spelled c) (hb : b.Spelled d) (join : Join) :
    (join.combine a b).Spelled (c.append join d) := by
  cases join with
  | times => exact ha.mul hb
  | per => exact ha.div hb

/-- The symbol of a compound lists its atoms. -/
theorem Compound.spelled_denomination {leaf : Measure → Chain Atom} {c : Compound}
    (h : ∀ m ∈ c.units, m.toDenomination.Spelled ((leaf m).map Atom.text)) :
    c.denomination.Spelled ((c.chain leaf).map Atom.text) := by
  induction c with
  | given m => exact h m (by simp [units])
  | joined a join b iha ihb =>
    rw [chain, Chain.map_append]
    exact (iha fun m hm => h m (by simp [units, hm])).combine
      (ihb fun m hm => h m (by simp [units, hm])) join
  | power a n ih =>
    rw [chain, Chain.map_changeLast (f := Atom.text) (k := raised n) fun _ => rfl]
    exact (ih h).pow n

namespace Session

variable {s : Session}

/-! ## Making compounds -/

/-- Multiplying or dividing two units succeeds, and makes the combined unit without touching the
registries. -/
theorem run_operate_join (join : Join) (a b : Measure) (s : Session) :
    ∃ m t, (operate join.operator (.unit a) (.unit b) >>= unitOf).run s = .ok m t ∧
      m.toDenomination = join.combine a.toDenomination b.toDenomination ∧ s.Beside t := by
  cases join with
  | times => exact run_issue (a.mul b) s
  | per => exact run_issue (a.div b) s

/-- Making a compound succeeds, and changes nothing that reading depends on. -/
theorem run_make (c : Compound) (s : Session) :
    ∃ m t, c.make.run s = .ok m t ∧ m.toDenomination = c.denomination ∧ s.Beside t := by
  induction c generalizing s with
  | given m => exact ⟨m, s, rfl, rfl, .refl s⟩
  | joined a join b iha ihb =>
    obtain ⟨l, t, hl, hla, hst⟩ := iha s
    obtain ⟨r, u, hr, hrb, htu⟩ := ihb t
    obtain ⟨m, v, hm, hdenomination, huv⟩ := run_operate_join join l r u
    refine ⟨m, v, ?_, ?_, (hst.trans htu).trans huv⟩
    · rw [Compound.make, run_bind_of_ok hl, run_bind_of_ok hr]
      exact hm
    · rw [hdenomination, hla, hrb, Compound.denomination]
  | power a n ih =>
    obtain ⟨m, t, hm, hma, hst⟩ := ih s
    obtain ⟨w, u, hw, hdenomination, htu⟩ := run_issue (m.pow n) t
    refine ⟨w, u, ?_, ?_, hst.trans htu⟩
    · rw [Compound.make, run_bind_of_ok hm]
      exact hw
    · rw [hdenomination, hma, Compound.denomination]

/-- A number on the left of a unit scales it. -/
theorem scaled_some (k : Float) (m : Measure) :
    scaled (some k) m = scaleUnit m (.scalar (.real k)) := by
  have hleft : leftRule .multiply (.scalar (.real k)) (.unit m) = pure none := rfl
  have hright : rightRule .multiply (.scalar (.real k)) (.unit m) =
      some <$> Answer.unit <$> scaleUnit m (.scalar (.real k)) := rfl
  simp [scaled, operate, hleft, hright, unitOf]

/-- Multiplying a unit by a number, if there is one, succeeds. -/
theorem run_scaled (k : Option Float) (m : Measure) (s : Session) :
    ∃ w t, (scaled k m).run s = .ok w t ∧
      w.toDenomination = ((Derived.known m).scaled k).denomination := by
  cases k with
  | none => exact ⟨m, s, rfl, rfl⟩
  | some k =>
    rw [scaled_some]
    unfold scaleUnit Derived.scaled Derived.times
    rw [show isOnce (.scalar (.real k)) = (k == 1.0) from rfl]
    -- once the unit is the unit itself
    dsimp only
    split
    · exact ⟨m, s, rfl, rfl⟩
    · exact ⟨_, _, rfl, rfl⟩

end Session

/-! ## Nesting to the left -/

/-- The compound that raising makes. -/
def Atom.compound : Atom → Compound
  | unit m => .given m
  | power a n => .power a.compound n

/-- The compound that begins with one and takes the others in, one after another. -/
def Compound.extend (c : Compound) (steps : List (Join × Atom)) : Compound :=
  steps.foldl (fun c step => .joined c step.1 step.2.compound) c

/-- The compound of a chain that is nested to the left. -/
def Chain.leftNested (c : Chain Atom) : Compound :=
  c.head.compound.extend c.tail

namespace Atom

/-- A power of a unit stands for itself as a compound. -/
theorem denomination_compound (a : Atom) : a.compound.denomination = a.derived.denomination := by
  induction a with
  | unit m => rfl
  | power a n ih => rw [compound, Compound.denomination, ih, derived, Derived.denomination]

theorem units_compound (a : Atom) : a.compound.units = [a.base] := by
  induction a with
  | unit m => rfl
  | power a n ih => rw [compound, Compound.units, ih, base]

/-- The unit with its own symbol. -/
def single (m : Measure) : Chain Atom :=
  .one (.unit m)

/-- A power of a unit is a chain of one. -/
theorem chain_compound (a : Atom) : a.compound.chain single = .one a := by
  induction a with
  | unit m => rfl
  | power a n ih => rw [compound, Compound.chain, ih, Chain.changeLast]

end Atom

namespace Compound

/-- Joining a unit to what was read is multiplying or dividing by it. -/
theorem denomination_joined_unit (u v : Derived) (join : Join) :
    (Operand.joined u join (.unit v)).denomination =
      join.combine u.denomination v.denomination := by
  cases join <;> rfl

/-- Joining operands from left to right makes what the compound that is nested to the left is. -/
theorem denomination_extend {c : Compound} {u : Derived} (h : u.denomination = c.denomination)
    (steps : List (Join × Atom)) :
    (c.extend steps).denomination =
      (steps.foldl (fun u step =>
        Operand.joined u step.1 (.unit step.2.derived)) u).denomination := by
  induction steps generalizing c u with
  | nil => exact h.symm
  | cons step steps ih =>
    refine ih ?_
    rw [denomination_joined_unit, h, ← step.2.denomination_compound, denomination]

/-- Extending a compound adds the base units in order. -/
theorem units_extend (c : Compound) (steps : List (Join × Atom)) :
    (c.extend steps).units = c.units ++ steps.map (·.2.base) := by
  induction steps generalizing c with
  | nil => rw [extend, List.foldl_nil, List.map_nil, List.append_nil]
  | cons step steps ih =>
    refine (ih _).trans ?_
    rw [units, Atom.units_compound, List.append_assoc, List.map_cons, List.singleton_append]

/-- A compound that is extended by a whole chain spells out that chain behind its own. -/
theorem chain_extend (c : Compound) (join : Join) (d : Chain Atom) :
    ((c.joined join d.head.compound).extend d.tail).chain Atom.single =
      (c.chain Atom.single).append join d := by
  induction d generalizing c join with
  | one a => rw [Chain.tail, extend, List.foldl_nil, chain, Chain.head, Atom.chain_compound]
  | cons a i rest ih =>
    rw [Chain.tail, extend, List.foldl_cons, ← extend, ih, chain, Chain.head, Atom.chain_compound,
      Chain.append_assoc]
    rfl

end Compound

namespace Chain

variable (c : Chain Atom)

theorem units_leftNested : c.leftNested.units = c.items.map Atom.base := by
  rw [leftNested, Compound.units_extend, Atom.units_compound, items_eq, List.map_cons, List.map_map]
  rfl

theorem chain_leftNested : c.leftNested.chain Atom.single = c := by
  cases c with
  | one a => exact a.chain_compound
  | cons a join rest =>
    refine (Compound.chain_extend _ join rest).trans ?_
    rw [head, a.chain_compound, append]

/-- The words of a chain of atoms behind a number, if there is one. -/
def words : Option Float → Chain Word
  | none => c.map .atom
  | some k => .cons (.number k) .times (c.map .atom)

/-- The words of a chain of atoms make what the compound that is nested to the left is. -/
theorem denomination_leftNested :
    c.leftNested.denomination = ((c.words none).map Word.operand).evaluate.denomination := by
  rw [leftNested, Compound.denomination_extend c.head.denomination_compound.symm, words, map_map,
    evaluate, head_map, tail_map]
  show _ = (Operand.evaluate (.unit c.head.derived) _).denomination
  rw [Operand.evaluate_unit, List.foldl_map]
  rfl

/-- A number in front multiplies what the words without it make. -/
theorem evaluate_words_some (k : Float) :
    ((c.words (some k)).map Word.operand).evaluate =
      ((c.words none).map Word.operand).evaluate.times (Numeral.reread k) := by
  cases c <;> exact Operand.evaluate_number_unit _ _ _

variable {c}

/-- Nested to the left, a compound spells out its words, since no bracket is needed. -/
theorem spelled_leftNested {r : Registry} (h : ∀ a ∈ c.items, r.Spells a) :
    c.leftNested.denomination.Spelled ((c.words none).map Word.text) := by
  have hleaf : ∀ m ∈ c.leftNested.units,
      m.toDenomination.Spelled ((Atom.single m).map Atom.text) := by
    intro m hm
    rw [units_leftNested] at hm
    obtain ⟨a, ha, rfl⟩ := List.mem_map.1 hm
    refine ⟨by simp [Atom.single, map, Atom.text, text], fun p hp => ?_⟩
    obtain rfl := List.mem_singleton.1 hp
    exact (h a ha).plain_base
  have hspelled := Compound.spelled_denomination hleaf
  rw [chain_leftNested] at hspelled
  rw [words, map_map]
  exact hspelled

end Chain

/-- A multiple of what the words of a chain of atoms make is read back: its symbol has the number in
front, if it is not 1, and there it is held back until the end. -/
theorem Registry.readsBack_scaled {r : Registry} {c : Chain Atom} (hc : ∀ a ∈ c.items, r.Spells a)
    {k : Option Float} (hk : ∀ x ∈ k, r.Reads (.number x) ∧ Numeral.reread x = x) {u : Derived}
    (hu : u.denomination = c.leftNested.denomination) : r.ReadsBack (u.scaled k).denomination := by
  have hatoms : ∀ w ∈ (c.words none).items, r.Reads w := by
    intro w hw
    rw [Chain.words, Chain.items_map] at hw
    obtain ⟨a, ha, rfl⟩ := List.mem_map.1 hw
    exact .atom (hc a ha)
  have hspelled := Chain.spelled_leftNested hc
  rw [c.denomination_leftNested] at hspelled hu
  -- the symbol without the number in front is read back
  have hplain := readsBack_of_spelled hatoms hspelled
  cases k with
  | none => exact hu ▸ hplain
  | some x =>
    obtain ⟨hread, hback⟩ := hk x rfl
    have htimes : (u.times x).denomination =
        ((c.words (some x)).map Word.operand).evaluate.denomination := by
      rw [c.evaluate_words_some, hback, Derived.times, Derived.times]
      split
      · exact hu
      · rw [Derived.denomination, Derived.denomination, hu]
    rw [Derived.scaled, htimes]
    -- a number 1 is not written
    by_cases hx : (x == 1.0) = true
    · rw [c.evaluate_words_some, hback, Derived.times, if_pos hx]
      exact hplain
    · have hwords : ∀ w ∈ (c.words (some x)).items, r.Reads w := by
        intro w hw
        rcases List.mem_cons.1 hw with rfl | hw
        · exact hread
        · exact hatoms w hw
      refine readsBack_of_spelled hwords ?_
      rw [c.evaluate_words_some, hback, Derived.times, if_neg hx]
      exact hspelled.multiple hread.plain x

namespace Session

/-- Symbols of compounds that are nested to the left are read back. Take atoms that a registry
spells, make the compound from them by the operators, one after another, and multiply it by a finite
number from the left or leave it. The unit that this makes is read back. It is taken for granted
that the notation of the number reads back as the number. -/
theorem readsBack_leftNested (r : Registry) (c : Chain Atom) (hc : ∀ a ∈ c.items, r.Spells a)
    (k : Option Float) (hfinite : ∀ x ∈ k, Numeral.isFinite x = true)
    (hback : ∀ x ∈ k, Numeral.reread x = x)
    (s : Session) :
    ∃ w t, (c.leftNested.make >>= scaled k).run s = .ok w t ∧ r.ReadsBack w.toDenomination := by
  obtain ⟨m, t, hm, hmake, -⟩ := run_make c.leftNested s
  obtain ⟨w, u, hw, hscaled⟩ := run_scaled k m t
  refine ⟨w, u, (run_bind_of_ok hm _).trans hw, ?_⟩
  rw [hscaled]
  exact Registry.readsBack_scaled hc (fun x hx => ⟨.number (hfinite x hx), hback x hx⟩) hmake

/-- With meters and seconds registered, 2.5 meters per square second are read back. -/
theorem readsBack_leftNested_acceleration :
    ∃ w t, ((Chain.cons (.unit Catalog.meter) .per
        (.one (.power (.unit Catalog.second) .two))).leftNested.make >>=
        scaled (some 2.5)).run (start true []) = .ok w t ∧
      ((Registry.register (.empty "units") Catalog.meter).register Catalog.second).ReadsBack
        w.toDenomination := by
  have hpass : ∀ text, ∀ b ∈ ((Registry.register (.empty "units") Catalog.meter).register
      Catalog.second).resolvers, b.reply text = .pass := fun _ b (hb : b ∈ []) => by cases hb
  refine readsBack_leftNested _ _ (fun a ha => ?_) _ (by decide +kernel) ?_ _
  · rcases List.mem_cons.1 ha with rfl | ha
    · exact .unit (by decide +kernel) (by decide) rfl (fun u hu => by cases hu) (hpass _)
    · obtain rfl := List.mem_singleton.1 ha
      exact .power (.unit (by decide +kernel) (by decide) rfl (fun u hu => by cases hu) (hpass _))
        rfl (hpass _)
  · decide +kernel

end Session

end Metrology
