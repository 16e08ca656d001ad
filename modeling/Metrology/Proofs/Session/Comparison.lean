import Metrology.Proofs.Numeral.Rounding
import Metrology.Proofs.Registry.Standard
import Metrology.Proofs.Session.Conversion
import Metrology.Session.Standard

/-!
# Comparing quantities in both directions

To compare two quantities, the second one is converted into the unit of the first, and both values
are rounded to the decimals that the settings say; a decimal place of a kilometer is not one of a
meter. So the two directions look at the quantities in different units, and one of them may find
equal what the other does not (`equal_not_symmetric`). Apart from that, they do not contradict each
other where the conversions keep the order of the two values, as they do where they lose nothing
(`compare_both_ways`).
-/

namespace Metrology

open Numeral Session

/-! ## Quantities in the units of one another -/

/-- Units with a finite factor other than zero are divided by it. -/
theorem Denomination.rescale_eq_div {source target : Denomination} {x : Float}
    (hf : isFinite target.factor = true) (hne : rational target.factor ≠ 0) :
    source.rescale target x = x * source.factor / target.factor := by
  have hzero : (target.factor == 0.0) = false := by
    rw [Bool.eq_false_iff, Ne, beq_iff_rational_eq hf isFinite_zero]
    rwa [rational_zero]
  rw [rescale, quotient, hzero, if_neg Bool.false_ne_true]

namespace Quantity

/-- The value of a quantity in a unit of its dimension. -/
def valueIn (q : Quantity) (v : Measure) : Float :=
  if q.unit.same v then q.value else q.unit.rescale v q.value

/-- A finite value in a unit with a finite factor other than zero. -/
structure Regular (q : Quantity) : Prop where
  value : isFinite q.value = true
  factor : isFinite q.unit.factor = true
  nonzero : rational q.unit.factor ≠ 0

/-- How many coherent units of its dimension a quantity is worth. -/
def worth (q : Quantity) : ℚ := rational q.value * rational q.unit.factor

/-- The value of a quantity in a unit is worth as much as the quantity: nothing is lost. -/
structure Exactly (q : Quantity) (v : Measure) : Prop where
  finite : isFinite (q.valueIn v) = true
  worth : rational (q.valueIn v) * rational v.factor = q.worth

/-- The values of two quantities are in the same order in the units of both. -/
structure SameOrder (a b : Quantity) : Prop where
  lt : a.value < b.valueIn a.unit ↔ a.valueIn b.unit < b.value
  gt : b.valueIn a.unit < a.value ↔ b.value < a.valueIn b.unit

/-- Whether two quantities agree to decimal places in the unit of the first. -/
def near (places : Int) (a b : Quantity) : Bool :=
  agree places a.value (b.valueIn a.unit)

/-- The order of two quantities in the unit of the first, where they do not agree. -/
def order (places : Int) (a b : Quantity) : Ordering :=
  if near places a b then .eq else if a.value < b.valueIn a.unit then .lt else .gt

variable {places : Int} {a b q : Quantity} {v : Measure}

/-- What a quantity is expressed with is its value in that unit. -/
theorem value_expressed (q : Quantity) (v : Measure) (serial : Nat) :
    (q.expressed v serial).value = q.valueIn v := by
  unfold expressed valueIn
  split <;> rfl

/-- In its own unit a quantity has its own value. -/
theorem valueIn_unit (q : Quantity) : q.valueIn q.unit = q.value :=
  if_pos q.unit.same_refl

/-- A finite quantity is near itself. -/
theorem near_self (h : 0 ≤ places) (ha : isFinite a.value = true) : near places a a = true := by
  rw [near, valueIn_unit]
  exact agree_of_rational_eq h ha ha rfl

/-- Quantities are equal in order where they are near. -/
theorem order_eq_iff : order places a b = .eq ↔ near places a b = true := by
  unfold order
  split
  · simp [*]
  · split <;> simp [*]

/-- Converting what is regular into a unit with a finite factor gives a number, or an infinity. -/
theorem isNaN_valueIn (hq : q.Regular) (hv : isFinite v.factor = true)
    (hne : rational v.factor ≠ 0) : (q.valueIn v).isNaN = false := by
  unfold valueIn
  split
  · exact isNaN_of_isFinite hq.value
  · rw [Denomination.rescale_eq_div hv hne]
    exact isNaN_div (isNaN_mul hq.value hq.factor) hv hne

/-- In the same order in both units, quantities that agree in neither are in opposite orders in the
two directions. -/
theorem order_swap (h : 0 ≤ places) (ha : a.Regular) (hb : b.Regular) (hsame : SameOrder a b)
    (hab : near places a b = false) (hba : near places b a = false) :
    order places b a = (order places a b).swap := by
  unfold order
  rw [hab, hba, if_neg Bool.false_ne_true, if_neg Bool.false_ne_true]
  obtain ⟨hlt, hgt⟩ | ⟨hgt, hlt⟩ := lt_or_lt_of_not_agree h ha.value
    (isNaN_valueIn hb ha.factor ha.nonzero) hab
  · have hother : ¬ b.value < a.valueIn b.unit := fun hb => hgt (hsame.gt.2 hb)
    rw [if_pos hlt, if_neg hother]
    rfl
  · rw [if_neg hlt, if_pos (hsame.gt.1 hgt)]
    rfl

/-- Where both values are the same in either unit, the directions mirror each other. -/
theorem order_swap_of_valueIn (h : 0 ≤ places) (ha : a.Regular) (hb : b.Regular)
    (hab : b.valueIn a.unit = b.value) (hba : a.valueIn b.unit = a.value) :
    near places b a = near places a b ∧ order places b a = (order places a b).swap := by
  have hnear : near places b a = near places a b := by
    rw [near, near, hab, hba]
    exact agree_comm h hb.value ha.value
  refine ⟨hnear, ?_⟩
  cases hn : near places a b with
  | true =>
    rw [order_eq_iff.2 hn, order_eq_iff.2 (hnear.trans hn)]
    rfl
  | false =>
    have hsame : SameOrder a b := ⟨by rw [hab, hba], by rw [hab, hba]⟩
    exact order_swap h ha hb hsame hn (hnear.trans hn)

/-- Conversions that lose nothing between units with factors of one sign keep the order. -/
theorem sameOrder_of_exactly (hab : b.Exactly a.unit) (hba : a.Exactly b.unit) (ha : a.Regular)
    (hb : b.Regular) (hsign : 0 < rational a.unit.factor * rational b.unit.factor) :
    SameOrder a b := by
  -- in coherent units, squares of factors apart, both directions compare the same two numbers
  have horder : ∀ {x y x' y' m n : ℚ}, 0 < m * n → x' * n = x * m → y' * m = y * n →
      (x < y' ↔ x' < y) ∧ (y' < x ↔ y < x') := by
    intro x y x' y' m n hmn hx hy
    have hsquare : 0 < n * n := mul_self_pos.2 (right_ne_zero_of_mul hmn.ne')
    have hx' : x * (m * n) = x' * (n * n) := by linear_combination -n * hx
    have hy' : y' * (m * n) = y * (n * n) := by linear_combination n * hy
    constructor
    · rw [← mul_lt_mul_iff_left₀ hmn, hx', hy', mul_lt_mul_iff_left₀ hsquare]
    · rw [← mul_lt_mul_iff_left₀ hmn, hx', hy', mul_lt_mul_iff_left₀ hsquare]
  obtain ⟨hlt, hgt⟩ := horder hsign hba.worth hab.worth
  refine ⟨?_, ?_⟩
  · rwa [lt_iff_rational_lt ha.value hab.finite, lt_iff_rational_lt hba.finite hb.value]
  · rwa [lt_iff_rational_lt hab.finite ha.value, lt_iff_rational_lt hb.value hba.finite]

/-- Quantities that are worth the same agree where the conversion loses nothing. -/
theorem near_of_worth_eq (h : 0 ≤ places) (ha : a.Regular) (hab : b.Exactly a.unit)
    (hworth : a.worth = b.worth) : near places a b = true := by
  refine agree_of_rational_eq h ha.value hab.finite ?_
  have heq : rational a.value * rational a.unit.factor =
      rational (b.valueIn a.unit) * rational a.unit.factor := hworth.trans hab.worth.symm
  exact mul_right_cancel₀ ha.nonzero heq

end Quantity

/-! ## Answers -/

namespace Session

/-- The operation answers, and the settings in force stay as they are. -/
def Answers {α : Type} (x : SessionM α) (s : Session) (answer : α) : Prop :=
  ∃ t, x.run s = .ok answer t ∧ t.settled = s.settled

section

variable {α β : Type} {s : Session} {x : SessionM α} {a : α}

theorem answers_pure (a : α) (s : Session) : Answers (pure a) s a := ⟨s, rfl, rfl⟩

/-- Answers are passed on. -/
theorem Answers.bind {f : α → SessionM β} {b : β} (hx : Answers x s a)
    (hf : ∀ t, t.settled = s.settled → Answers (f a) t b) : Answers (x >>= f) s b := by
  obtain ⟨t, ht, hsettled⟩ := hx
  obtain ⟨u, hu, hsettled'⟩ := hf t hsettled
  exact ⟨u, (run_bind_of_ok ht f).trans hu, hsettled'.trans hsettled⟩

end

/-- Where none is named, there is a registry that stands in. -/
theorem exists_answers_registryOr (o : Option Nat) (s : Session) :
    ∃ id, Answers (registryOr o) s id := by
  have hfails : FailsOnly (fun _ => False) (registryOr o) := by
    cases o with
    | some id => exact failsOnly_pure id
    | none => exact failsOnly_standingRegistry
  have hsettling : (after (registryOr o) s).settled = s.settled :=
    Frame.settling.conduct.holds_registryOr settling_standingRegistry o s
  obtain ⟨id, t, ht⟩ := hfails.exists_run s
  rw [after_of_ok ht] at hsettling
  exact ⟨id, t, ht, hsettling⟩

/-! ## The answers of comparisons -/

section

variable {s : Session} {a b : Quantity} {o : Option Nat}

theorem answers_currentSettings (s : Session) : Answers currentSettings s s.settled :=
  ⟨_, run_currentSettings s, settled_settle s⟩

theorem answers_round {x y : Float} {places : Int} (h : roundTo? x places = some y) (s : Session) :
    Answers (round x places) s y := by
  rw [round, h]
  exact answers_pure y s

theorem answers_roundedEqual_of_roundTo? {x y x' y' : Float}
    (hx : roundTo? x s.settled.equalityPrecision = some x')
    (hy : roundTo? y s.settled.equalityPrecision = some y') :
    Answers (roundedEqual x y) s (agree s.settled.equalityPrecision x y) := by
  rw [agree_of_roundTo? hx hy]
  refine (answers_currentSettings s).bind fun t _ => ?_
  refine (answers_round hx t).bind fun u _ => ?_
  exact (answers_round hy u).bind fun v _ => answers_pure _ v

/-- Numbers are equal up to rounding where they agree. -/
theorem answers_roundedEqual (h : 0 ≤ s.settled.equalityPrecision) (x y : Float) :
    Answers (roundedEqual x y) s (agree s.settled.equalityPrecision x y) := by
  obtain ⟨x', hx', -⟩ := exists_roundTo? x h
  obtain ⟨y', hy', -⟩ := exists_roundTo? y h
  exact answers_roundedEqual_of_roundTo? hx' hy'

/-- Within a dimension, a conversion answers the quantity in the other unit. -/
theorem answers_convert (id : Nat) (s : Session) (h : a.unit.dimension = b.unit.dimension) :
    Answers (convert id b a.unit) s (b.expressed a.unit s.nextSerial) := by
  obtain ⟨t, ht, hbeside, -⟩ := run_convert_of_compatible id s (Measure.compatible_iff.2 h.symm)
  refine ⟨t, ht, ?_⟩
  rw [hbeside.others]
  rfl

theorem exists_answers_convertTo (o : Option Nat) (s : Session)
    (h : a.unit.dimension = b.unit.dimension) :
    ∃ serial, Answers (convertTo b (.unit a.unit) none o) s (b.expressed a.unit serial) := by
  obtain ⟨id, t, ht, hsettled⟩ := exists_answers_registryOr o s
  obtain ⟨u, hu, hsettled'⟩ := answers_convert id t h
  refine ⟨t.nextSerial, u, ?_, hsettled'.trans hsettled⟩
  exact (run_bind_of_ok ht _).trans ((run_bind_of_ok rfl _).trans (run_bind_of_ok hu _))

/-- Quantities of one dimension are equal where their values agree in the unit of the first, if
quantities that are one agree. -/
theorem answers_equal_of_agree {places : Int} (hdim : a.unit.dimension = b.unit.dimension)
    (hself : a.same b = true → a.near places b = true)
    (hagree : ∀ t : Session, t.settled = s.settled →
      Answers (roundedEqual a.value (b.valueIn a.unit)) t (a.near places b)) (o : Option Nat) :
    Answers (equal a b o) s (a.near places b) := by
  unfold equal
  split
  · rw [hself ‹_›]
    exact answers_pure true s
  · obtain ⟨id, hid⟩ := exists_answers_registryOr o s
    -- one dimension, so there is no need for a conversion function
    have hconvertible : ∀ t : Session, (t.registryAt id).isConvertible b.unit a.unit = true :=
      fun t => by rw [Registry.isConvertible, Measure.compatible_iff.2 hdim.symm, Bool.true_or]
    refine hid.bind fun t ht => ?_
    have hregistry : Answers (registry id) t (t.registryAt id) := ⟨t, rfl, rfl⟩
    refine hregistry.bind fun u hu => ?_
    rw [hconvertible t]
    refine (answers_convert id u hdim).bind fun v hv => ?_
    rw [Quantity.value_expressed]
    exact hagree v (hv.trans (hu.trans ht))

/-- Quantities of one dimension are compared in the unit of the first. -/
theorem answers_compare_of_agree {places : Int} (hdim : a.unit.dimension = b.unit.dimension)
    (hagree : ∀ t : Session, t.settled = s.settled →
      Answers (roundedEqual a.value (b.valueIn a.unit)) t (a.near places b)) (o : Option Nat) :
    Answers (compare a b o) s (a.order places b) := by
  obtain ⟨serial, hconvert⟩ := exists_answers_convertTo o s hdim
  refine hconvert.bind fun t ht => ?_
  rw [Quantity.value_expressed]
  refine (hagree t ht).bind fun u _ => ?_
  unfold Quantity.order
  split
  · exact answers_pure _ u
  · exact answers_pure _ u

/-- Quantities of one dimension are equal where they are near in the unit of the first one. -/
theorem answers_equal (h : 0 ≤ s.settled.equalityPrecision) (ha : isFinite a.value = true)
    (hdim : a.unit.dimension = b.unit.dimension) (hsame : a.same b = true → a = b)
    (o : Option Nat) :
    Answers (equal a b o) s (Quantity.near s.settled.equalityPrecision a b) := by
  refine answers_equal_of_agree hdim (fun hab => ?_) (fun t ht => ?_) o
  · obtain rfl := hsame hab
    exact Quantity.near_self h ha
  · rw [← ht] at h ⊢
    exact answers_roundedEqual h _ _

/-- Quantities of one dimension are ordered in the unit of the first one. -/
theorem answers_compare (h : 0 ≤ s.settled.equalityPrecision)
    (hdim : a.unit.dimension = b.unit.dimension) (o : Option Nat) :
    Answers (compare a b o) s (Quantity.order s.settled.equalityPrecision a b) := by
  refine answers_compare_of_agree hdim (fun t ht => ?_) o
  rw [← ht] at h ⊢
  exact answers_roundedEqual h _ _

end

/-! ## Both directions -/

/-- Asked whether it is equal to `b`, and how it compares with `b`, the quantity `a` answers by what
`b` is in the unit of `a`, rounded to the decimal places; it compares as equal where it is. -/
structure ComparedIn (s : Session) (o : Option Nat) (places : Int) (a b : Quantity) : Prop where
  equal : Answers (Session.equal a b o) s (a.near places b)
  compare : Answers (Session.compare a b o) s (a.order places b)
  eq_iff : a.order places b = .eq ↔ a.near places b = true

section

variable {s : Session} {a b : Quantity} {o : Option Nat}

/-- All comparisons of two quantities of one dimension are decided in the unit of the first one. -/
theorem comparedIn (h : 0 ≤ s.settled.equalityPrecision) (ha : isFinite a.value = true)
    (hdim : a.unit.dimension = b.unit.dimension) (hsame : a.same b = true → a = b) :
    ComparedIn s o s.settled.equalityPrecision a b :=
  ⟨answers_equal h ha hdim hsame o, answers_compare h hdim o, Quantity.order_eq_iff⟩

end

/-- A kilometer is equal to 1000.000004 meters, and these are not equal to it: to eight decimals,
the difference is lost in kilometers, but not in meters. -/
theorem equal_not_symmetric :
    let s := start true []
    let a : Quantity := ⟨1.0, Catalog.kilometer, 1000⟩
    let b : Quantity := ⟨1000.000004, Catalog.meter, 1001⟩
    (0 ≤ s.settled.equalityPrecision ∧ a.Regular ∧ b.Regular ∧
      a.unit.dimension = b.unit.dimension ∧ a.same b = false) ∧
    (Answers (equal a b none) s true ∧ Answers (equal b a none) s false) ∧
    (Answers (compare a b none) s .eq ∧ Answers (compare b a none) s .gt) := by
  intro s a b
  have hp : 0 ≤ s.settled.equalityPrecision := by decide
  have ha : a.Regular := ⟨by decide +kernel, by decide +kernel, by decide +kernel⟩
  have hb : b.Regular := ⟨by decide +kernel, by decide +kernel, by decide +kernel⟩
  have hdim : a.unit.dimension = b.unit.dimension := rfl
  have hab : ComparedIn s none 8 a b := comparedIn hp ha.value hdim nofun
  have hba : ComparedIn s none 8 b a := comparedIn hp hb.value hdim.symm nofun
  have hnear : a.near 8 b = true := by decide +kernel
  have hnear' : b.near 8 a = false := by decide +kernel
  have horder : b.order 8 a = .gt := by decide +kernel
  refine ⟨⟨hp, ha, hb, hdim, rfl⟩, ⟨hnear ▸ hab.equal, hnear' ▸ hba.equal⟩, ?_, ?_⟩
  · exact hab.eq_iff.2 hnear ▸ hab.compare
  · exact horder ▸ hba.compare

/-- In every session whose settings round to decimal places, and with every registry, two quantities
of one dimension, of finite values in units with finite factors other than zero, are compared in
both directions, each time in the unit of the quantity that is asked. Where both values are the same
in either unit, the answers mirror each other. Where the values are in the same order in both units,
the answers mirror each other unless one of them is that the quantities are equal. The values are in
the same order where the conversions lose nothing and the factors have one sign, and then quantities
that are worth the same are equal in both directions. -/
theorem compare_both_ways (s : Session) (o : Option Nat) (a b : Quantity) (places : Int)
    (hplaces : s.settled.equalityPrecision = places) (h : 0 ≤ places) (ha : a.Regular)
    (hb : b.Regular) (hdim : a.unit.dimension = b.unit.dimension)
    (hsame : a.same b = true → a = b) :
    ComparedIn s o places a b ∧ ComparedIn s o places b a ∧
    (b.valueIn a.unit = b.value → a.valueIn b.unit = a.value →
      b.near places a = a.near places b ∧ b.order places a = (a.order places b).swap) ∧
    (a.SameOrder b → a.near places b = false → b.near places a = false →
      b.order places a = (a.order places b).swap) ∧
    (b.Exactly a.unit → a.Exactly b.unit →
      0 < rational a.unit.factor * rational b.unit.factor →
      a.SameOrder b ∧ (a.worth = b.worth → a.near places b = true ∧ b.near places a = true)) := by
  subst hplaces
  have hsame' : b.same a = true → b = a := fun hba => by
    refine (hsame ?_).symm
    rwa [Quantity.same, BEq.comm]
  refine ⟨comparedIn h ha.value hdim hsame, comparedIn h hb.value hdim.symm hsame',
    Quantity.order_swap_of_valueIn h ha hb, Quantity.order_swap h ha hb, fun hab hba hsign => ?_⟩
  refine ⟨Quantity.sameOrder_of_exactly hab hba ha hb hsign, fun hworth => ⟨?_, ?_⟩⟩
  · exact Quantity.near_of_worth_eq h ha hab hworth
  · exact Quantity.near_of_worth_eq h hb hba hworth.symm

/-- A kilometer is less than 1500 meters, and these are more than a kilometer. -/
theorem compare_both_ways_kilometer_meters :
    Answers (compare ⟨1.0, Catalog.kilometer, 1000⟩ ⟨1500.0, Catalog.meter, 1001⟩ none)
      (start true []) .lt ∧
    Answers (compare ⟨1500.0, Catalog.meter, 1001⟩ ⟨1.0, Catalog.kilometer, 1000⟩ none)
      (start true []) .gt := by
  have ha : Quantity.Regular ⟨1.0, Catalog.kilometer, 1000⟩ :=
    ⟨by decide +kernel, by decide +kernel, by decide +kernel⟩
  have hb : Quantity.Regular ⟨1500.0, Catalog.meter, 1001⟩ :=
    ⟨by decide +kernel, by decide +kernel, by decide +kernel⟩
  obtain ⟨hab, hba, -, hswap, hexactly⟩ := compare_both_ways (start true []) none
    ⟨1.0, Catalog.kilometer, 1000⟩ ⟨1500.0, Catalog.meter, 1001⟩ 8 rfl (by decide) ha hb rfl nofun
  obtain ⟨hsame, -⟩ := hexactly ⟨by decide +kernel, by decide +kernel⟩
    ⟨by decide +kernel, by decide +kernel⟩ (by decide +kernel)
  have horder : Quantity.order 8 ⟨1.0, Catalog.kilometer, 1000⟩ ⟨1500.0, Catalog.meter, 1001⟩ =
      .lt := by decide +kernel
  have horder' := hswap hsame (by decide +kernel) (by decide +kernel)
  refine ⟨horder ▸ hab.compare, ?_⟩
  have hcompare := hba.compare
  rwa [horder', horder] at hcompare

end Session

end Metrology
