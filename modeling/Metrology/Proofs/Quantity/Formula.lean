import Mathlib.Data.Finsupp.SMul
import Metrology.Session.Operator
import Metrology.Proofs.Dimension.Vector
import Metrology.Proofs.Session.Conversion
import Metrology.Session.Standard

/-!
# Formulas over quantities

A formula is built from quantities by the operators. Its dimension can be inferred without
evaluating it, in the free abelian group over the base dimensions: sums and differences ask for
equal vectors, and so does converting to a unit. Where the standing registry has no conversion
functions, evaluating a formula fails exactly where the inference does, and answers with a quantity
of the dimension that is inferred otherwise (`evaluate_iff_infer`).

The proof goes by induction on the formula. Units are one and the same when their serial numbers
are, so what carries the induction is that all units that are around were issued and are coherent
(`Session.Stage`); every unit that an operator issues joins them.
-/

namespace Metrology

open Session

/-- An expression over quantities. -/
inductive Formula where
  | given (q : Quantity)
  | add (a b : Formula)
  | subtract (a b : Formula)
  | negate (a : Formula)
  | absolute (a : Formula)
  | multiply (a b : Formula)
  | divide (a b : Formula)
  /-- A quantity times a number. -/
  | times (a : Formula) (x : Float)
  /-- A number times a quantity. -/
  | scaled (x : Float) (a : Formula)
  /-- A quantity divided by a number. -/
  | reduced (a : Formula) (x : Float)
  /-- A number divided by a quantity. -/
  | inverted (x : Float) (a : Formula)
  | power (a : Formula) (n : Int)
  | converted (a : Formula) (target : Measure)

namespace Session

/-- The quantity that an operator answers. -/
def quantityOf : Answer → SessionM Quantity
  | .quantity q => pure q
  | _ => throw .wrongKind

/-- The quantity that an operator makes of two operands. -/
def operated (op : Operator) (l r : Argument) : SessionM Quantity :=
  operate op l r >>= quantityOf

end Session

namespace Formula

/-- Evaluate a formula from left to right, with the standing registry. -/
def evaluate : Formula → SessionM Quantity
  | given q => pure q
  | add a b => do
    let p ← a.evaluate
    let q ← b.evaluate
    operated .add (.quantity p) (.quantity q)
  | subtract a b => do
    let p ← a.evaluate
    let q ← b.evaluate
    operated .subtract (.quantity p) (.quantity q)
  | negate a => do Session.negate (← a.evaluate)
  | absolute a => do Session.absolute (← a.evaluate)
  | multiply a b => do
    let p ← a.evaluate
    let q ← b.evaluate
    operated .multiply (.quantity p) (.quantity q)
  | divide a b => do
    let p ← a.evaluate
    let q ← b.evaluate
    operated .divide (.quantity p) (.quantity q)
  | times a x => do operated .multiply (.quantity (← a.evaluate)) (.scalar (.real x))
  | scaled x a => do operated .multiply (.scalar (.real x)) (.quantity (← a.evaluate))
  | reduced a x => do operated .divide (.quantity (← a.evaluate)) (.scalar (.real x))
  | inverted x a => do operated .divide (.scalar (.real x)) (.quantity (← a.evaluate))
  | power a n => do raise (.quantity (← a.evaluate)) n >>= quantityOf
  | converted a target => do convertTo (← a.evaluate) (.unit target) none none

/-- The units that a formula mentions. -/
def units : Formula → List Measure
  | given q => [q.unit]
  | add a b => a.units ++ b.units
  | subtract a b => a.units ++ b.units
  | negate a => a.units
  | absolute a => a.units
  | multiply a b => a.units ++ b.units
  | divide a b => a.units ++ b.units
  | times a _ => a.units
  | scaled _ a => a.units
  | reduced a _ => a.units
  | inverted _ a => a.units
  | power a _ => a.units
  | converted a target => target :: a.units

/-- A vector, if it is the one that is asked for. -/
noncomputable def agreeing (u v : ℕ →₀ ℤ) : Option (ℕ →₀ ℤ) :=
  if u = v then some u else none

/-- The dimension of a formula, inferred from those of its quantities. -/
noncomputable def infer : Formula → Option (ℕ →₀ ℤ)
  | given q => some q.unit.dimension.vector
  | add a b => a.infer.bind fun u => b.infer.bind fun v => agreeing u v
  | subtract a b => a.infer.bind fun u => b.infer.bind fun v => agreeing u v
  | negate a => a.infer
  | absolute a => a.infer
  | multiply a b => a.infer.bind fun u => b.infer.bind fun v => some (u + v)
  | divide a b => a.infer.bind fun u => b.infer.bind fun v => some (u - v)
  | times a _ => a.infer
  | scaled _ a => a.infer
  | reduced a _ => a.infer
  | inverted _ a => a.infer.bind fun u => some (-u)
  | power a n => a.infer.bind fun u => some (n • u)
  | converted a target => a.infer.bind fun u => agreeing u target.dimension.vector

end Formula

namespace Session

/-! ## Operators on quantities -/

/-- The left operand decides first. -/
theorem operated_of_leftRule {op : Operator} {l r : Argument} {x : SessionM Quantity}
    (h : leftRule op l r = some <$> Answer.quantity <$> x) : operated op l r = x := by
  simp [operated, operate, h, quantityOf]

/-- Where the left operand has no rule, the right one decides. -/
theorem operated_of_rightRule {op : Operator} {l r : Argument} {x : SessionM Quantity}
    (h : leftRule op l r = pure none) (h' : rightRule op l r = some <$> Answer.quantity <$> x) :
    operated op l r = x := by
  simp [operated, operate, h, h', quantityOf]

/-- The operator adds quantities by their addition. -/
theorem operated_add (p q : Quantity) :
    operated .add (.quantity p) (.quantity q) = Session.add p q none :=
  operated_of_leftRule rfl

theorem operated_subtract (p q : Quantity) :
    operated .subtract (.quantity p) (.quantity q) = Session.subtract p q none :=
  operated_of_leftRule rfl

theorem operated_multiply (p q : Quantity) :
    operated .multiply (.quantity p) (.quantity q) = Session.multiply p q :=
  operated_of_leftRule rfl

theorem operated_divide (p q : Quantity) :
    operated .divide (.quantity p) (.quantity q) = Session.divide p q :=
  operated_of_leftRule rfl

/-- A quantity times a number keeps its unit. -/
theorem operated_times (q : Quantity) (x : Float) :
    operated .multiply (.quantity q) (.scalar (.real x)) = quantity (q.value * x) q.unit :=
  operated_of_leftRule rfl

/-- A number times a quantity keeps the unit, with the number in front. -/
theorem operated_scaled (x : Float) (q : Quantity) :
    operated .multiply (.scalar (.real x)) (.quantity q) = quantity (x * q.value) q.unit :=
  operated_of_rightRule rfl rfl

/-- A quantity divided by a number keeps its unit. -/
theorem operated_reduced (q : Quantity) (x : Float) :
    operated .divide (.quantity q) (.scalar (.real x)) =
      quantity (Numeral.quotient q.value x) q.unit :=
  operated_of_leftRule rfl

/-- A number divided by a quantity has the inverse unit. -/
theorem operated_inverted (x : Float) (q : Quantity) :
    operated .divide (.scalar (.real x)) (.quantity q) = divideInto x q :=
  operated_of_rightRule rfl rfl

theorem raise_quantity (q : Quantity) (n : Int) :
    (raise (.quantity q) n >>= quantityOf) = Session.power q n := by
  simp [raise, quantityOf]

/-! ## Units that are around -/

/-- The standing registry has no conversion functions, and the units that are around were issued and
are coherent. -/
structure Stage (s : Session) (id : Nat) (ms : List Measure) : Prop where
  standing : s.standing = some id
  bare : (s.registryAt id).conversions = ∅
  coherent : Measure.Coherent ms
  issued : ∀ m ∈ ms, m.serial < s.nextSerial

variable {id : Nat} {s t : Session} {ms : List Measure}

/-- An operation beside the registries leaves the stage set. -/
theorem Stage.later (h : s.Stage id ms) (ht : s.Beside t) : t.Stage id ms := by
  refine ⟨?_, ?_, h.coherent, fun m hm => Nat.lt_of_lt_of_le (h.issued m hm) ht.serials⟩
  · rw [ht.standing]
    exact h.standing
  · rw [registryAt_congr ht.registries]
    exact h.bare

/-- A unit that is issued is the same as none that is around. -/
theorem Stage.issue (h : s.Stage id ms) (d : Denomination) (ht : s.Beside t)
    (hserial : s.nextSerial < t.nextSerial) :
    t.Stage id ({ d with serial := s.nextSerial } :: ms) := by
  have hlater := h.later ht
  refine ⟨hlater.standing, hlater.bare, fun a ha b hb hab => ?_, fun m hm => ?_⟩
  · -- the new unit has a serial number that none of the others has
    rw [Measure.same_iff] at hab
    rcases List.mem_cons.1 ha with rfl | ha <;> rcases List.mem_cons.1 hb with rfl | hb
    · rfl
    · exact absurd hab (Nat.ne_of_gt (h.issued b hb))
    · exact absurd hab (Nat.ne_of_lt (h.issued a ha))
    · exact h.coherent a ha b hb (Measure.same_iff.2 hab)
  · rcases List.mem_cons.1 hm with rfl | hm
    · exact hserial
    · exact hlater.issued m hm

/-- The operation comes out as inferred: where no vector is inferred it fails because quantities
cannot be converted, and otherwise it answers with a quantity of that vector in a unit that is
around then. -/
def Yields (id : Nat) (x : SessionM Quantity) (s : Session) (ms : List Measure) :
    Option (ℕ →₀ ℤ) → Prop
  | none => ∃ a b t, x.run s = .error (.notConvertible a (some b)) t
  | some v => ∃ q t ms', x.run s = .ok q t ∧ q.unit.dimension.vector = v ∧ s.Beside t ∧
      ms ⊆ ms' ∧ q.unit ∈ ms' ∧ t.Stage id ms'

/-- What follows an operation begins where that one comes out. -/
theorem Yields.bind {x : SessionM Quantity} {g : Quantity → SessionM Quantity}
    {o : Option (ℕ →₀ ℤ)} {k : (ℕ →₀ ℤ) → Option (ℕ →₀ ℤ)} (hx : Yields id x s ms o)
    (hg : ∀ q t ms', ms ⊆ ms' → q.unit ∈ ms' → t.Stage id ms' →
      Yields id (g q) t ms' (k q.unit.dimension.vector)) : Yields id (x >>= g) s ms (o.bind k) := by
  cases o with
  | none =>
    obtain ⟨a, b, t, h⟩ := hx
    exact ⟨a, b, t, run_bind_of_error h g⟩
  | some v =>
    obtain ⟨q, t, ms', h, rfl, hst, hms, hq, ht⟩ := hx
    have hrest := hg q t ms' hms hq ht
    rw [Option.bind_some]
    cases hk : k q.unit.dimension.vector with
    | none =>
      rw [hk] at hrest
      obtain ⟨a, b, u, hu⟩ := hrest
      exact ⟨a, b, u, (run_bind_of_ok h g).trans hu⟩
    | some w =>
      rw [hk] at hrest
      obtain ⟨r, u, ms'', hu, hw, htu, hms', hr, hstage⟩ := hrest
      exact ⟨r, u, ms'', (run_bind_of_ok h g).trans hu, hw, hst.trans htu,
        List.Subset.trans hms hms', hr, hstage⟩

/-- What follows two operations begins where the second one comes out. -/
theorem Yields.both {x y : SessionM Quantity} {g : Quantity → Quantity → SessionM Quantity}
    {o o' : Option (ℕ →₀ ℤ)} {k : (ℕ →₀ ℤ) → (ℕ →₀ ℤ) → Option (ℕ →₀ ℤ)} (hx : Yields id x s ms o)
    (hy : ∀ t ms', ms ⊆ ms' → t.Stage id ms' → Yields id y t ms' o')
    (hg : ∀ p q t ms', p.unit ∈ ms' → q.unit ∈ ms' → t.Stage id ms' →
      Yields id (g p q) t ms' (k p.unit.dimension.vector q.unit.dimension.vector)) :
    Yields id (do
      let p ← x
      let q ← y
      g p q) s ms (o.bind fun u => o'.bind fun v => k u v) :=
  hx.bind fun p t ms' hms hp ht => (hy t ms' hms ht).bind fun q u ms'' hms' hq hu =>
    hg p q u ms'' (hms' hp) hq hu

/-- A quantity in a unit that is around. -/
theorem yields_quantity (h : s.Stage id ms) (value : Float) {m : Measure} (hm : m ∈ ms) :
    Yields id (quantity value m) s ms (some m.dimension.vector) := by
  have hs : s.Beside { s with nextSerial := s.nextSerial + 1 } := ⟨Nat.le_succ _, rfl⟩
  exact ⟨_, _, ms, rfl, rfl, hs, List.Subset.refl ms, hm, h.later hs⟩

/-- Another value in the same unit. -/
theorem Yields.revalue {x : SessionM Quantity} {o : Option (ℕ →₀ ℤ)} (hx : Yields id x s ms o)
    (f : Float → Float) : Yields id (do
      let q ← x
      quantity (f q.value) q.unit) s ms o := by
  rw [← Option.bind_fun_some o]
  exact hx.bind fun q t ms' _ hq ht => yields_quantity ht (f q.value) hq

/-- A quantity in a unit that is issued for it. -/
theorem yields_issue (h : s.Stage id ms) (value : Float) (d : Denomination) :
    Yields id (do quantity value (← issue d)) s ms (some d.dimension.vector) := by
  have hs : s.Beside { s with nextSerial := s.nextSerial + 2 } := ⟨by simp, rfl⟩
  refine ⟨_, _, _, rfl, rfl, hs, List.subset_cons_self _ ms, List.mem_cons_self, ?_⟩
  exact h.issue d hs (by simp only; omega)

/-- Without rounding, converting to a unit is the conversion in the standing registry. -/
theorem run_convertTo (h : s.standing = some id) (q : Quantity) (m : Measure) :
    (convertTo q (.unit m) none none).run s = (convert id q m).run s := by
  have hid : (registryOr none).run s = .ok id s := run_standingRegistry_of_some h
  unfold convertTo
  rw [run_bind_of_ok hid]
  show (convert id q m >>= pure).run s = _
  rw [bind_pure]

/-- Converting comes out as the two dimensions agree, with the quantity in the unit of that name. -/
theorem yields_convertTo (h : s.Stage id ms) {q : Quantity} (hq : q.unit ∈ ms) {m : Measure}
    (hm : m ∈ ms) : Yields id (convertTo q (.unit m) none none) s ms
      (Formula.agreeing q.unit.dimension.vector m.dimension.vector) := by
  have hrun := run_convertTo h.standing q m
  unfold Formula.agreeing
  by_cases hd : q.unit.dimension = m.dimension
  · rw [if_pos (by rw [hd])]
    obtain ⟨t, ht, hst, -⟩ := run_convert_of_compatible id s (Measure.compatible_iff.2 hd)
    -- a quantity that has the very unit stays itself, so its unit need not be `m` as written
    have hunit : (q.expressed m s.nextSerial).unit = q.unit ∨
        (q.expressed m s.nextSerial).unit = m := by
      unfold Quantity.expressed
      split
      · exact .inl rfl
      · exact .inr rfl
    refine ⟨_, t, ms, hrun.trans ht, ?_, hst, List.Subset.refl ms, ?_, h.later hst⟩
    · rcases hunit with hu | hu
      · rw [hu]
      · rw [hu, hd]
    · rcases hunit with hu | hu
      · rw [hu]
        exact hq
      · rw [hu]
        exact hm
  · rw [if_neg (by rwa [Dimension.vector_inj])]
    -- without functions there is no other way, and coherence rules out that the units are the same
    have hcompatible : q.unit.compatible m.toDenomination = false := by
      rw [← Bool.not_eq_true, Measure.compatible_iff]
      exact hd
    have hnone : (s.registryAt id).isConvertible q.unit m = false := by
      rw [Registry.isConvertible, Registry.conversion?, h.bare, hcompatible]
      rfl
    have hsame := not_same_of_not_compatible (h.coherent q.unit hq m hm) hcompatible
    exact ⟨q.unit, m, _, hrun.trans (run_convert_of_not_isConvertible hsame hnone)⟩

/-- Combining a quantity with another one in its own unit comes out as the two dimensions agree. -/
theorem yields_moved (h : s.Stage id ms) {p q : Quantity} (hp : p.unit ∈ ms) (hq : q.unit ∈ ms)
    (f : Float → Float → Float) :
    Yields id (do
        let r ← convertTo q (.unit p.unit) none none
        quantity (f p.value r.value) p.unit) s ms
      (Formula.agreeing p.unit.dimension.vector q.unit.dimension.vector) := by
  have hinferred : ((Formula.agreeing q.unit.dimension.vector p.unit.dimension.vector).bind fun _ =>
      some p.unit.dimension.vector) =
      Formula.agreeing p.unit.dimension.vector q.unit.dimension.vector := by
    unfold Formula.agreeing
    by_cases hd : q.unit.dimension.vector = p.unit.dimension.vector
    · rw [if_pos hd, if_pos hd.symm]
      rfl
    · rw [if_neg hd, if_neg (Ne.symm hd)]
      rfl
  rw [← hinferred]
  exact (yields_convertTo h hq hp).bind fun r t ms' hms _ ht =>
    yields_quantity ht (f p.value r.value) (hms hp)

end Session

namespace Formula

variable {id : Nat} {s : Session} {ms : List Measure}

/-- A formula over units that are around comes out as inferred. -/
theorem yields_evaluate (f : Formula) (h : s.Stage id ms) (hf : f.units ⊆ ms) :
    Yields id f.evaluate s ms f.infer := by
  -- the units that are around grow along the formula, so they are generalized with the session
  induction f generalizing s ms with
  | given q =>
    exact ⟨q, s, ms, rfl, rfl, .refl s, List.Subset.refl ms, hf List.mem_cons_self, h⟩
  | add a b iha ihb =>
    obtain ⟨ha, hb⟩ := List.append_subset.1 hf
    refine (iha h ha).both (fun t ms' hms ht => ihb ht (List.Subset.trans hb hms))
      fun p q t ms' hp hq ht => ?_
    rw [operated_add]
    exact yields_moved ht hp hq (· + ·)
  | subtract a b iha ihb =>
    obtain ⟨ha, hb⟩ := List.append_subset.1 hf
    refine (iha h ha).both (fun t ms' hms ht => ihb ht (List.Subset.trans hb hms))
      fun p q t ms' hp hq ht => ?_
    rw [operated_subtract]
    exact yields_moved ht hp hq (· - ·)
  | negate a ih => exact (ih h hf).revalue fun x => -x
  | absolute a ih => exact (ih h hf).revalue Float.abs
  | multiply a b iha ihb =>
    obtain ⟨ha, hb⟩ := List.append_subset.1 hf
    refine (iha h ha).both (fun t ms' hms ht => ihb ht (List.Subset.trans hb hms))
      fun p q t ms' hp hq ht => ?_
    rw [operated_multiply, ← Dimension.vector_mul]
    exact yields_issue ht _ (p.unit.mul q.unit)
  | divide a b iha ihb =>
    obtain ⟨ha, hb⟩ := List.append_subset.1 hf
    refine (iha h ha).both (fun t ms' hms ht => ihb ht (List.Subset.trans hb hms))
      fun p q t ms' hp hq ht => ?_
    rw [operated_divide, ← Dimension.vector_div]
    exact yields_issue ht _ (p.unit.div q.unit)
  | times a x ih =>
    simp only [evaluate, infer, operated_times]
    exact (ih h hf).revalue fun y => y * x
  | scaled x a ih =>
    simp only [evaluate, infer, operated_scaled]
    exact (ih h hf).revalue fun y => x * y
  | reduced a x ih =>
    simp only [evaluate, infer, operated_reduced]
    exact (ih h hf).revalue fun y => Numeral.quotient y x
  | inverted x a ih =>
    refine (ih h hf).bind fun q t ms' hms hq ht => ?_
    rw [operated_inverted, ← neg_one_zsmul, ← Dimension.vector_pow]
    exact yields_issue ht _ (.reciprocal "1" 1.0 q.unit)
  | power a n ih =>
    refine (ih h hf).bind fun q t ms' hms hq ht => ?_
    rw [raise_quantity, ← Dimension.vector_pow]
    exact yields_issue ht _ (q.unit.pow n)
  | converted a target ih =>
    obtain ⟨htarget, ha⟩ := List.cons_subset.1 hf
    exact (ih h ha).bind fun q t ms' hms hq ht => yields_convertTo ht hq (hms htarget)

/-- Evaluated from the session, every sum and every difference in the formula is in the very unit
of its left operand. -/
def KeepsLeft : Formula → Session → Prop
  | given _, _ => True
  | add a b, s => a.KeepsLeft s ∧ b.KeepsLeft (after a.evaluate s) ∧
      ∀ p t q u, a.evaluate.run s = .ok p t → (add a b).evaluate.run s = .ok q u → q.unit = p.unit
  | subtract a b, s => a.KeepsLeft s ∧ b.KeepsLeft (after a.evaluate s) ∧
      ∀ p t q u, a.evaluate.run s = .ok p t → (subtract a b).evaluate.run s = .ok q u →
        q.unit = p.unit
  | negate a, s => a.KeepsLeft s
  | absolute a, s => a.KeepsLeft s
  | multiply a b, s => a.KeepsLeft s ∧ b.KeepsLeft (after a.evaluate s)
  | divide a b, s => a.KeepsLeft s ∧ b.KeepsLeft (after a.evaluate s)
  | times a _, s => a.KeepsLeft s
  | scaled _ a, s => a.KeepsLeft s
  | reduced a _, s => a.KeepsLeft s
  | inverted _ a, s => a.KeepsLeft s
  | power a _, s => a.KeepsLeft s
  | converted a _, s => a.KeepsLeft s

/-- What two operations make of their answers has the unit of the first answer if that is what is
made of any two answers. -/
theorem unit_of_both {x y : SessionM Quantity} {g : Quantity → Quantity → SessionM Quantity}
    {f : Float → Float → Float} (hg : ∀ p q, g p q = do
      let r ← convertTo q (.unit p.unit) none none
      quantity (f p.value r.value) p.unit)
    {p q : Quantity} {t u : Session} (hx : x.run s = .ok p t)
    (h : (do
      let p ← x
      let q ← y
      g p q : SessionM Quantity).run s = .ok q u) : q.unit = p.unit := by
  rw [run_bind_of_ok hx] at h
  obtain ⟨r, v, -, hr⟩ := run_eq_ok_of_bind h
  rw [hg] at hr
  obtain ⟨r', v', -, hq⟩ := run_eq_ok_of_bind hr
  cases hq
  rfl

/-- Every formula keeps the unit object of its left operand: by induction over the formula. -/
theorem keepsLeft (f : Formula) (s : Session) : f.KeepsLeft s := by
  induction f generalizing s with
  | given q => trivial
  | add a b iha ihb =>
    exact ⟨iha s, ihb _, fun p t q u hp hq => unit_of_both operated_add hp hq⟩
  | subtract a b iha ihb =>
    exact ⟨iha s, ihb _, fun p t q u hp hq => unit_of_both operated_subtract hp hq⟩
  | multiply a b iha ihb => exact ⟨iha s, ihb _⟩
  | divide a b iha ihb => exact ⟨iha s, ihb _⟩
  | negate a ih => exact ih s
  | absolute a ih => exact ih s
  | times a x ih => exact ih s
  | scaled x a ih => exact ih s
  | reduced a x ih => exact ih s
  | inverted x a ih => exact ih s
  | power a n ih => exact ih s
  | converted a target ih => exact ih s

/-- With a standing registry that has no conversion functions, a formula over units that were issued
fails to convert exactly where no dimension can be inferred for it. Otherwise it answers with a
quantity of the dimension that is inferred, and changes no registry. Every sum and every difference
is in the unit of its left operand. -/
theorem evaluate_iff_infer (f : Formula) (id : Nat) (s : Session) (r : Registry)
    (hstanding : s.standing = some id) (hr : s.registries[id]? = some r)
    (hbare : r.conversions = ∅) (hcoherent : Measure.Coherent f.units)
    (hissued : ∀ m ∈ f.units, m.serial < s.nextSerial) :
    (f.infer = none ↔ ∃ a b t, f.evaluate.run s = .error (.notConvertible a b) t) ∧
    (∀ v, f.infer = some v → ∃ q t, f.evaluate.run s = .ok q t ∧
      q.unit.dimension.vector = v ∧ t.registries = s.registries) ∧
    f.KeepsLeft s := by
  have hstage : s.Stage id f.units :=
    ⟨hstanding, by rwa [registryAt_of_getElem? hr], hcoherent, hissued⟩
  have hyields := f.yields_evaluate hstage (List.Subset.refl _)
  have hok : ∀ v, f.infer = some v → ∃ q t, f.evaluate.run s = .ok q t ∧
      q.unit.dimension.vector = v ∧ t.registries = s.registries := by
    intro v hv
    rw [hv] at hyields
    obtain ⟨q, t, ms, hq, hvector, hst, -⟩ := hyields
    exact ⟨q, t, hq, hvector, hst.registries⟩
  refine ⟨⟨fun hnone => ?_, fun ⟨a, b, t, hfail⟩ => ?_⟩, hok, f.keepsLeft s⟩
  · rw [hnone] at hyields
    obtain ⟨a, b, t, hfail⟩ := hyields
    exact ⟨a, some b, t, hfail⟩
  · -- where a vector is inferred, the formula has a value and does not fail
    cases hv : f.infer with
    | none => rfl
    | some v =>
      obtain ⟨q, u, hq, -⟩ := hok v hv
      rw [hq] at hfail
      cases hfail

/-- A length divided by a duration is a velocity. -/
theorem evaluate_iff_infer_meter_second :
    ∃ q t, (divide (given ⟨100.0, Catalog.meter, 200⟩)
        (given ⟨9.58, Catalog.second, 201⟩)).evaluate.run
        (play [.create "units", .useRegistry 0] (start true [])) = .ok q t ∧
      q.unit.dimension.vector =
        Catalog.meter.dimension.vector - Catalog.second.dimension.vector := by
  have hunits : Measure.Coherent [Catalog.meter, Catalog.second] := by
    simp [Measure.Coherent, Measure.same, Catalog.meter, Catalog.second]
  have hissued : ∀ m ∈ [Catalog.meter, Catalog.second],
      m.serial < Catalog.allUnits.length + 1 := by decide
  obtain ⟨q, t, hq, hv, -⟩ := (evaluate_iff_infer (divide (given ⟨100.0, Catalog.meter, 200⟩)
    (given ⟨9.58, Catalog.second, 201⟩)) 0 (play [.create "units", .useRegistry 0] (start true []))
    (.empty "units") rfl rfl rfl hunits hissued).2.1 _ rfl
  exact ⟨q, t, hq, hv⟩

end Formula

end Metrology
