import Metrology.Session.Operator
import Metrology.Proofs.Numeral.Monotone
import Metrology.Proofs.Session.Comparison
import Metrology.Session.Aggregate
import Metrology.Session.Standard

/-!
# The order of quantities in one unit

Quantities are equal when their values agree to decimal places, but otherwise they are compared by
the values themselves. Among quantities in one unit this is a total preorder all the same, that of
the values as they are rounded: rounding is monotone, so values that are in order and do not agree
are in the same order when they are rounded (`Quantity.Alike.order_eq_cmp`). The operators of
comparison, the larger and the smaller of two quantities and a quantity between two bounds follow
it, also where some of the quantities are equal (`preordered_in_one_unit`). Nothing but the
monotonicity of rounding is used, which `Numeral.monotoneRounding` has for decimal places.
-/

namespace Metrology

open Numeral Session

namespace Quantity

/-- Quantities in one unit with values that are numbers or infinite. What is the same object is one
quantity. -/
structure Alike (u : Measure) (Q : Set Quantity) : Prop where
  unit : ∀ q ∈ Q, q.unit = u
  number : ∀ q ∈ Q, q.value.isNaN = false
  identity : ∀ a ∈ Q, ∀ b ∈ Q, a.same b = true → a = b

/-- A comparison is a total preorder on quantities. -/
structure Preorders (order : Quantity → Quantity → Ordering) (Q : Set Quantity) : Prop where
  refl : ∀ a ∈ Q, order a a = .eq
  swap : ∀ a ∈ Q, ∀ b ∈ Q, order b a = (order a b).swap
  trans : ∀ a ∈ Q, ∀ b ∈ Q, ∀ c ∈ Q,
    (order a b).isLE = true → (order b c).isLE = true → (order a c).isLE = true

/-- The first quantity if it is more than the second, and otherwise the second. -/
def upper (order : Quantity → Quantity → Ordering) (a b : Quantity) : Quantity :=
  if order a b == .gt then a else b

/-- The first quantity if it is less than the second, and otherwise the second. -/
def lower (order : Quantity → Quantity → Ordering) (a b : Quantity) : Quantity :=
  if order a b == .lt then a else b

/-- The quantity between two bounds: itself, or the bound that it is beyond. -/
def clamp (order : Quantity → Quantity → Ordering) (q least most : Quantity) : Quantity :=
  upper order least (lower order q most)

section

variable {order : Quantity → Quantity → Ordering} {Q : Set Quantity} {a b q least most : Quantity}

/-- The larger of two quantities is one of them. -/
theorem upper_eq_or (order : Quantity → Quantity → Ordering) (a b : Quantity) :
    upper order a b = a ∨ upper order a b = b := by
  unfold upper
  split
  · exact .inl rfl
  · exact .inr rfl

/-- The smaller of two quantities is one of them. -/
theorem lower_eq_or (order : Quantity → Quantity → Ordering) (a b : Quantity) :
    lower order a b = a ∨ lower order a b = b := by
  unfold lower
  split
  · exact .inl rfl
  · exact .inr rfl

/-- A clamped quantity is itself or one of the bounds. -/
theorem clamp_eq_or (order : Quantity → Quantity → Ordering) (q least most : Quantity) :
    clamp order q least most = q ∨ clamp order q least most = least ∨
      clamp order q least most = most := by
  rcases upper_eq_or order least (lower order q most) with h | h
  · exact .inr (.inl h)
  · rcases lower_eq_or order q most with h' | h'
    · exact .inl (h.trans h')
    · exact .inr (.inr (h.trans h'))

theorem upper_mem (ha : a ∈ Q) (hb : b ∈ Q) : upper order a b ∈ Q := by
  rcases upper_eq_or order a b with h | h <;> rwa [h]

theorem lower_mem (ha : a ∈ Q) (hb : b ∈ Q) : lower order a b ∈ Q := by
  rcases lower_eq_or order a b with h | h <;> rwa [h]

namespace Preorders

variable (h : Preorders order Q) (ha : a ∈ Q) (hb : b ∈ Q)
include h ha

theorem isLE_self : (order a a).isLE = true := by
  rw [h.refl a ha]
  rfl

include hb

/-- Quantities that are at most one another are equal. -/
theorem eq_of_isLE (hab : (order a b).isLE = true) (hba : (order b a).isLE = true) :
    order a b = .eq := by
  rw [h.swap a ha b hb] at hba
  cases horder : order a b with
  | eq => rfl
  | lt => rw [horder] at hba; cases hba
  | gt => rw [horder] at hab; cases hab

/-- The larger of two quantities is at least either of them. -/
theorem isLE_upper : (order a (upper order a b)).isLE = true ∧
    (order b (upper order a b)).isLE = true := by
  have hswap := h.swap a ha b hb
  unfold upper
  cases horder : order a b with
  | gt => exact ⟨h.isLE_self ha, by rw [if_pos (by decide), hswap, horder]; rfl⟩
  | eq => exact ⟨by rw [if_neg (by decide), horder]; rfl, h.isLE_self hb⟩
  | lt => exact ⟨by rw [if_neg (by decide), horder]; rfl, h.isLE_self hb⟩

/-- The smaller of two quantities is at most either of them. -/
theorem lower_isLE : (order (lower order a b) a).isLE = true ∧
    (order (lower order a b) b).isLE = true := by
  have hswap := h.swap a ha b hb
  unfold lower
  cases horder : order a b with
  | lt => exact ⟨h.isLE_self ha, by rw [if_pos (by decide), horder]; rfl⟩
  | eq => exact ⟨by rw [if_neg (by decide), hswap, horder]; rfl, h.isLE_self hb⟩
  | gt => exact ⟨by rw [if_neg (by decide), hswap, horder]; rfl, h.isLE_self hb⟩

end Preorders

/-- Between two bounds that are in order, a quantity is kept between them, and it is left where it
is if it is there. -/
theorem Preorders.clamp (h : Preorders order Q) (hq : q ∈ Q) (hleast : least ∈ Q)
    (hmost : most ∈ Q) (hbounds : (order least most).isLE = true) :
    (order least (clamp order q least most)).isLE = true ∧
    (order (Quantity.clamp order q least most) most).isLE = true ∧
    ((order least q).isLE = true → (order q most).isLE = true →
      order (Quantity.clamp order q least most) q = .eq) := by
  have hmem : lower order q most ∈ Q := lower_mem hq hmost
  have hmem' : Quantity.clamp order q least most ∈ Q := upper_mem hleast hmem
  obtain ⟨hlow, hlow'⟩ := h.lower_isLE hq hmost
  obtain ⟨hup, hup'⟩ := h.isLE_upper hleast hmem
  -- both candidates are at most whatever is at least `least` and `q`
  have hle : ∀ c ∈ Q, (order least c).isLE = true → (order (lower order q most) c).isLE = true →
      (order (Quantity.clamp order q least most) c).isLE = true := by
    intro c _ hc hc'
    rcases upper_eq_or order least (lower order q most) with heq | heq
    · rwa [Quantity.clamp, heq]
    · rwa [Quantity.clamp, heq]
  refine ⟨hup, hle most hmost hbounds hlow', fun hleastq hqmost => ?_⟩
  refine h.eq_of_isLE hmem' hq (hle q hq hleastq hlow) ?_
  refine h.trans q hq _ hmem _ hmem' ?_ hup'
  rcases lower_eq_or order q most with heq | heq
  · rw [heq]
    exact h.isLE_self hq
  · rwa [heq]

end

/-! ## Quantities in one unit -/

variable {places : Int} {u : Measure} {Q : Set Quantity} {a b : Quantity}

/-- Where the value of a quantity stands when it is rounded. -/
def rank (places : Int) (q : Quantity) : Level := roundedLevel places q.value

/-- In one unit, values need no conversion. -/
theorem Alike.valueIn_eq (hQ : Alike u Q) (ha : a ∈ Q) (hb : b ∈ Q) :
    b.valueIn a.unit = b.value := by
  rw [hQ.unit a ha, ← hQ.unit b hb, valueIn_unit]

/-- Quantities in one unit are compared by their ranks. -/
theorem Alike.order_eq_cmp (h : MonotoneRounding places) (hQ : Alike u Q) (ha : a ∈ Q)
    (hb : b ∈ Q) : a.order places b = cmp (a.rank places) (b.rank places) := by
  unfold order near
  rw [hQ.valueIn_eq ha hb]
  exact h.order_eq_cmp (hQ.number a ha) (hQ.number b hb)

/-- Quantities in one unit are preordered, since rounding does not change the order of their values.
-/
theorem Alike.preorders (h : MonotoneRounding places) (hQ : Alike u Q) :
    Preorders (order places) Q where
  refl a ha := by rw [hQ.order_eq_cmp h ha ha, cmp_self_eq_eq]
  swap a ha b hb := by rw [hQ.order_eq_cmp h ha hb, hQ.order_eq_cmp h hb ha, cmp_swap]
  trans a ha b hb c hc := by
    rw [hQ.order_eq_cmp h ha hb, hQ.order_eq_cmp h hb hc, hQ.order_eq_cmp h ha hc, isLE_cmp,
      isLE_cmp, isLE_cmp]
    exact le_trans

end Quantity

namespace Session

open Quantity

variable {s : Session} {places : Int} {u : Measure} {Q : Set Quantity} {a b : Quantity}

/-! ## Comparisons -/

/-- An operation answers one thing. -/
theorem Answers.unique {α : Type} {x : SessionM α} {a b : α} (h : Answers x s a)
    (h' : Answers x s b) : a = b := by
  obtain ⟨t, ht, -⟩ := h
  obtain ⟨t', ht', -⟩ := h'
  rw [ht] at ht'
  cases ht'
  rfl

theorem Answers.map {α β : Type} {x : SessionM α} {a : α} (h : Answers x s a) (g : α → β) :
    Answers (g <$> x) s (g a) := by
  rw [map_eq_pure_bind]
  exact h.bind fun t _ => answers_pure _ t

/-- The operators of comparison. -/
def comparisons : List Operator :=
  [.less, .atMost, .greater, .atLeast, .equal, .unequal]

/-- In the session, whatever compares the quantities goes by the order of two of them. -/
structure GoesBy (s : Session) (order : Quantity → Quantity → Ordering) (Q : Set Quantity) :
    Prop where
  comparing : ∀ a ∈ Q, ∀ b ∈ Q, ∀ o, Answers (compare a b o) s (order a b)
  equating : ∀ a ∈ Q, ∀ b ∈ Q, ∀ o, Answers (equal a b o) s (order a b == .eq)
  operating : ∀ a ∈ Q, ∀ b ∈ Q, ∀ op ∈ comparisons,
    Answers (operate op (.quantity a) (.quantity b)) s (.truth (satisfies op (order a b)))

theorem answers_roundedEqual_of_monotone {x y : Float}
    (hplaces : s.settled.equalityPrecision = places) (h : MonotoneRounding places)
    (hx : x.isNaN = false) (hy : y.isNaN = false) :
    Answers (roundedEqual x y) s (agree places x y) := by
  subst hplaces
  obtain ⟨x', hx'⟩ := h.defined x hx
  obtain ⟨y', hy'⟩ := h.defined y hy
  exact answers_roundedEqual_of_roundTo? hx' hy'

/-- Where the left operand has a rule, the operator answers by it. -/
theorem answers_operate {op : Operator} {l r : Argument} {answer : Answer}
    (h : Answers (leftRule op l r) s (some answer)) : Answers (operate op l r) s answer :=
  h.bind fun t _ => answers_pure answer t

/-- The operators of comparison go by the answers of `equal` and `compare`. -/
theorem answers_operate_comparison {order : Ordering}
    (hcompare : Answers (compare a b none) s order)
    (hequal : Answers (equal a b none) s (order == .eq)) {op : Operator} (hop : op ∈ comparisons) :
    Answers (operate op (.quantity a) (.quantity b)) s (.truth (satisfies op order)) := by
  refine answers_operate ?_
  have hordered (op : Operator) : Answers (do
      pure (some (.truth (satisfies op (← compare a b none))))) s
        (some (Answer.truth (satisfies op order))) :=
    hcompare.bind fun t _ => answers_pure _ t
  simp only [comparisons, List.mem_cons, List.not_mem_nil, or_false] at hop
  obtain rfl | rfl | rfl | rfl | rfl | rfl := hop
  · exact hordered .less
  · exact hordered .atMost
  · exact hordered .greater
  · exact hordered .atLeast
  · exact (hequal.map Answer.truth).map some
  · exact hequal.bind fun t _ => answers_pure _ t

/-- Quantities in one unit are compared by the order. -/
theorem goesBy (hplaces : s.settled.equalityPrecision = places) (h : MonotoneRounding places)
    (hQ : Alike u Q) : s.GoesBy (Quantity.order places) Q := by
  have hdim : ∀ a ∈ Q, ∀ b ∈ Q, a.unit.dimension = b.unit.dimension := fun a ha b hb => by
    rw [hQ.unit a ha, hQ.unit b hb]
  -- in one unit nothing is converted, so the values themselves are rounded
  have hagree : ∀ a ∈ Q, ∀ b ∈ Q, ∀ t : Session, t.settled = s.settled →
      Answers (roundedEqual a.value (b.valueIn a.unit)) t (a.near places b) := by
    intro a ha b hb t ht
    have hvalue : b.valueIn a.unit = b.value := hQ.valueIn_eq ha hb
    rw [Quantity.near, hvalue]
    exact answers_roundedEqual_of_monotone (ht ▸ hplaces) h (hQ.number a ha) (hQ.number b hb)
  have hcompare : ∀ a ∈ Q, ∀ b ∈ Q, ∀ o, Answers (compare a b o) s (a.order places b) :=
    fun a ha b hb o => answers_compare_of_agree (hdim a ha b hb) (hagree a ha b hb) o
  have hequal : ∀ a ∈ Q, ∀ b ∈ Q, ∀ o, Answers (equal a b o) s (a.order places b == .eq) := by
    intro a ha b hb o
    have hnear : (a.order places b == .eq) = a.near places b := by
      rw [Bool.eq_iff_iff, beq_iff_eq, Quantity.order_eq_iff]
    rw [hnear]
    refine answers_equal_of_agree (hdim a ha b hb) (fun hab => ?_) (hagree a ha b hb) o
    -- the same object is the same quantity
    obtain rfl := hQ.identity a ha b hb hab
    exact Quantity.order_eq_iff.1 ((hQ.preorders h).refl a ha)
  exact ⟨hcompare, hequal, fun a ha b hb op hop =>
    answers_operate_comparison (hcompare a ha b hb none) (hequal a ha b hb none) hop⟩

/-! ## Larger and smaller quantities -/

section

variable {order : Quantity → Quantity → Ordering} {least most q : Quantity}

theorem GoesBy.answers_larger (h : s.GoesBy order Q) (ha : a ∈ Q) (hb : b ∈ Q) :
    Answers (larger a b) s (upper order a b) :=
  (h.comparing a ha b hb none).bind fun t _ => answers_pure _ t

theorem GoesBy.answers_smaller (h : s.GoesBy order Q) (ha : a ∈ Q) (hb : b ∈ Q) :
    Answers (smaller a b) s (lower order a b) :=
  (h.comparing a ha b hb none).bind fun t _ => answers_pure _ t

theorem GoesBy.answers_limit (h : ∀ t : Session, t.settled = s.settled → t.GoesBy order Q)
    (hq : q ∈ Q) (hleast : least ∈ Q) (hmost : most ∈ Q) :
    Answers (limit q least most) s (clamp order q least most) :=
  ((h s rfl).answers_smaller hq hmost).bind fun t ht =>
    (h t ht).answers_larger hleast (lower_mem hq hmost)

end

/-! ## The order of the operators -/

/-- Operators of comparison of which one answers the opposite of the other. -/
def opposites : List (Operator × Operator) :=
  [(.atMost, .greater), (.atLeast, .less), (.unequal, .equal)]

/-- The operators of comparison do not contradict one another on two quantities. -/
structure Consistent (s : Session) (a b : Quantity) : Prop where
  exactly_one : ∃! op, op ∈ [Operator.less, .equal, .greater] ∧
    Answers (operate op (.quantity a) (.quantity b)) s (.truth true)
  opposite : ∀ ops ∈ opposites, ∀ t,
    Answers (operate ops.1 (.quantity a) (.quantity b)) s (.truth t) ↔
      Answers (operate ops.2 (.quantity a) (.quantity b)) s (.truth !t)

/-- Whatever the order, one of the three comparisons holds. -/
theorem exists_satisfies (o : Ordering) :
    ∃ op ∈ [Operator.less, .equal, .greater], satisfies op o = true := by
  cases o <;> decide

/-- Whatever the order, no two of the three comparisons hold. -/
theorem satisfies_unique (o : Ordering) : ∀ op ∈ [Operator.less, .equal, .greater],
    ∀ op' ∈ [Operator.less, .equal, .greater],
      satisfies op o = true → satisfies op' o = true → op = op' := by
  cases o <;> decide

/-- A comparison holds where its opposite does not. -/
theorem satisfies_opposite (o : Ordering) :
    ∀ ops ∈ opposites, satisfies ops.1 o = !satisfies ops.2 o := by
  cases o <;> decide

theorem opposites_subset :
    ∀ ops ∈ opposites, ops.1 ∈ comparisons ∧ ops.2 ∈ comparisons := by
  decide

section

variable {order : Quantity → Quantity → Ordering} (h : s.GoesBy order Q) (ha : a ∈ Q) (hb : b ∈ Q)
include h ha hb

/-- An operator of comparison answers whether the order satisfies it. -/
theorem GoesBy.answers_iff {op : Operator} (hop : op ∈ comparisons) {t : Bool} :
    Answers (operate op (.quantity a) (.quantity b)) s (.truth t) ↔
      satisfies op (order a b) = t := by
  have hanswers := h.operating a ha b hb op hop
  refine ⟨fun ht => Answer.truth.inj (hanswers.unique ht), ?_⟩
  rintro rfl
  exact hanswers

/-- Comparisons that go by one order are consistent with each other. -/
theorem GoesBy.consistent : s.Consistent a b where
  exactly_one := by
    have hcomparison : ∀ op ∈ [Operator.less, .equal, .greater], op ∈ comparisons := by decide
    obtain ⟨op, hop, hsatisfies⟩ := exists_satisfies (order a b)
    refine ⟨op, ⟨hop, (h.answers_iff ha hb (hcomparison op hop)).2 hsatisfies⟩, ?_⟩
    rintro op' ⟨hop', hanswers⟩
    exact satisfies_unique (order a b) op' hop' op hop
      ((h.answers_iff ha hb (hcomparison op' hop')).1 hanswers) hsatisfies
  opposite := by
    intro ops hops t
    obtain ⟨hfirst, hsecond⟩ := opposites_subset ops hops
    rw [h.answers_iff ha hb hfirst, h.answers_iff ha hb hsecond, satisfies_opposite _ ops hops,
      Bool.not_eq_eq_eq_not]

end

/-- Quantities in one unit whose values are numbers or infinite are in a total preorder, if rounding
to the decimal places of the settings is defined and monotone: comparing them answers by it, they
are equal where they compare as equal, and the operators of comparison answer by it and do not
contradict one another. The larger of two quantities is one of them and at least both, the smaller
is one of them and at most both. A quantity that is kept between two bounds in order is one of the
three, it is between the bounds, and it compares as equal with the given one if that is between
them. -/
theorem preordered_in_one_unit (s : Session) (u : Measure) (Q : Set Quantity) (places : Int)
    (hplaces : s.settled.equalityPrecision = places) (h : MonotoneRounding places)
    (hQ : Alike u Q) :
    Preorders (Quantity.order places) Q ∧ s.GoesBy (Quantity.order places) Q ∧
    (∀ a ∈ Q, ∀ b ∈ Q, s.Consistent a b ∧
      (∃ r, Answers (larger a b) s r ∧ (r = a ∨ r = b) ∧
        (a.order places r).isLE = true ∧ (b.order places r).isLE = true) ∧
      ∃ r, Answers (smaller a b) s r ∧ (r = a ∨ r = b) ∧
        (r.order places a).isLE = true ∧ (r.order places b).isLE = true) ∧
    ∀ q ∈ Q, ∀ least ∈ Q, ∀ most ∈ Q, (least.order places most).isLE = true →
      ∃ r, Answers (limit q least most) s r ∧ (r = q ∨ r = least ∨ r = most) ∧
        (least.order places r).isLE = true ∧ (r.order places most).isLE = true ∧
        ((least.order places q).isLE = true → (q.order places most).isLE = true →
          r.order places q = .eq) := by
  have hpreorders := hQ.preorders h
  -- the settings in force do not change between two comparisons of one call
  have hgoes : ∀ t : Session, t.settled = s.settled → t.GoesBy (Quantity.order places) Q :=
    fun t ht => goesBy (ht ▸ hplaces) h hQ
  refine ⟨hpreorders, hgoes s rfl, fun a ha b hb => ⟨(hgoes s rfl).consistent ha hb, ?_, ?_⟩, ?_⟩
  · exact ⟨_, (hgoes s rfl).answers_larger ha hb, upper_eq_or _ a b, hpreorders.isLE_upper ha hb⟩
  · exact ⟨_, (hgoes s rfl).answers_smaller ha hb, lower_eq_or _ a b, hpreorders.lower_isLE ha hb⟩
  · intro q hq least hleast most hmost hbounds
    exact ⟨_, GoesBy.answers_limit hgoes hq hleast hmost, clamp_eq_or _ q least most,
      hpreorders.clamp hq hleast hmost hbounds⟩

/-- With the settings of a new session, an infinite length is kept between a meter and three. -/
theorem preordered_in_one_unit_meters :
    let q : Quantity := ⟨infinity, Catalog.meter, 200⟩
    let least : Quantity := ⟨1.0, Catalog.meter, 201⟩
    let most : Quantity := ⟨3.0, Catalog.meter, 202⟩
    ∃ r, Answers (limit q least most) (start true []) r ∧ (r = q ∨ r = least ∨ r = most) ∧
      (least.order 8 r).isLE = true ∧ (r.order 8 most).isLE = true := by
  intro q least most
  have hQ : Alike Catalog.meter {q, least, most} := by
    refine ⟨?_, ?_, ?_⟩
    · rintro _ (rfl | rfl | rfl) <;> rfl
    · rintro _ (rfl | rfl | rfl) <;> decide +kernel
    · -- the three have serial numbers of their own
      intro a ha b hb hab
      have hserial : a.serial = b.serial := eq_of_beq hab
      rcases ha with rfl | rfl | rfl <;> rcases hb with rfl | rfl | rfl <;>
        first | exact absurd hserial (by decide) | rfl
  obtain ⟨-, -, -, hlimit⟩ := preordered_in_one_unit (start true []) Catalog.meter
    {q, least, most} 8 rfl (monotoneRounding (by decide)) hQ
  obtain ⟨r, hr, hmember, hleast, hmost, -⟩ := hlimit q (by simp) least (by simp) most (by simp)
    (by decide +kernel)
  exact ⟨r, hr, hmember, hleast, hmost⟩

end Session

end Metrology
