import Mathlib.Data.List.Nodup
import Metrology.Proofs.Dimension.Vector
import Metrology.Proofs.Session.Frame
import Metrology.Session.Registration

/-!
# The group of dimensions

Whatever a program makes of base dimensions, by name, from a mapping, or by multiplying, dividing
and raising, with new base dimensions interned in between, has exponents at interned numbers only
and no zero stored at its end. So two dimensions are equal exactly when they agree at every interned
number (`Dimension.eq_iff_exponent`), and every vector over the interned numbers is that of exactly
one dimension that can be made: the dimensions are the free abelian group over the base dimensions
(`Workshop.free_of_makings`).
-/

namespace Metrology

open Session

namespace Dimension

/-! ## Laws -/

section

variable (a b c : Dimension) (m n : Int)

theorem mul_assoc : a * b * c = a * (b * c) := by
  rw [← vector_inj]
  simp only [vector_mul, add_assoc]

theorem mul_comm : a * b = b * a := by
  rw [← vector_inj, vector_mul, vector_mul, add_comm]

theorem mul_one : a * 1 = a := by
  rw [← vector_inj, vector_mul, vector_one, add_zero]

/-- Dividing is multiplying by the power with the exponent -1. -/
theorem div_eq_mul_pow : a / b = a * b ^ (-1 : Int) := by
  rw [← vector_inj, vector_div, vector_mul, vector_pow, neg_one_smul, sub_eq_add_neg]

/-- A dimension divided by itself is that of pure numbers. -/
theorem div_self : a / a = 1 := by
  rw [← vector_inj, vector_div, sub_self, vector_one]

/-- The power with the exponent 0 is the dimension of pure numbers. -/
theorem pow_zero : a ^ (0 : Int) = 1 := by
  rw [← vector_inj, vector_pow, zero_smul, vector_one]

/-- A power of a power has the product of the exponents. -/
theorem pow_pow : (a ^ m) ^ n = a ^ (m * n) := by
  rw [← vector_inj, vector_pow, vector_pow, vector_pow, smul_smul, Int.mul_comm]

/-- A sum of exponents gives the product of the powers. -/
theorem pow_add : a ^ (m + n) = a ^ m * a ^ n := by
  rw [← vector_inj, vector_mul, vector_pow, vector_pow, vector_pow, add_smul]

/-- A power of a product is the product of the powers. -/
theorem mul_pow : (a * b) ^ n = a ^ n * b ^ n := by
  rw [← vector_inj, vector_mul, vector_pow, vector_pow, vector_pow, vector_mul, smul_add]

end

/-! ## Dimensions over the first numbers -/

/-- The exponents are zero from a number on. -/
def Over (d : Dimension) (n : Nat) : Prop :=
  ∀ i, n ≤ i → d.exponent i = 0

variable {a b d : Dimension} {m n : Nat}

/-- A dimension over some base dimensions is one over more of them, too. -/
theorem Over.mono (h : d.Over m) (hmn : m ≤ n) : d.Over n :=
  fun i hi => h i (Nat.le_trans hmn hi)

/-- Exponents that are zero from a number on make a dimension over the numbers before it. -/
theorem over_ofList {es : List Int} (h : ∀ i, n ≤ i → es.getD i 0 = 0) : (ofList es).Over n := by
  intro i hi
  rw [exponent_ofList, h i hi]

/-- A power needs no further base dimensions. -/
theorem Over.pow (h : d.Over n) (k : Int) : (d ^ k).Over n := by
  intro i hi
  rw [exponent_pow, h i hi, Int.zero_mul]

/-- A product needs no further base dimensions. -/
theorem Over.mul (ha : a.Over n) (hb : b.Over n) : (a * b).Over n := by
  intro i hi
  rw [exponent_mul, ha i hi, hb i hi, Int.add_zero]

/-- A quotient needs no further base dimensions. -/
theorem Over.div (ha : a.Over n) (hb : b.Over n) : (a / b).Over n := by
  intro i hi
  rw [exponent_div, ha i hi, hb i hi, Int.sub_zero]

/-- No exponent is stored from the number on: the last one that is stored is not zero. -/
theorem Over.length_le (h : d.Over n) : d.exponents.length ≤ n := by
  by_contra hlength
  refine d.trimmed ?_
  have hlast := h (d.exponents.length - 1) (by omega)
  rw [exponent, List.getD_eq_getElem _ _ (by omega)] at hlast
  rw [List.getLast?_eq_getElem?, List.getElem?_eq_getElem (by omega), hlast]

/-- Over finitely many base dimensions, equality is decided by their exponents. -/
theorem eq_iff_exponent (ha : a.Over n) (hb : b.Over n) :
    a = b ↔ ∀ i < n, a.exponent i = b.exponent i := by
  refine ⟨fun h i _ => by rw [h], fun h => ext_exponent fun i => ?_⟩
  by_cases hi : i < n
  · exact h i hi
  · rw [ha i (by omega), hb i (by omega)]

/-- A vector over the first numbers is that of a dimension. -/
theorem vector_ofList_map {v : ℕ →₀ ℤ} (h : ∀ i, n ≤ i → v i = 0) :
    (ofList ((List.range n).map v)).vector = v := by
  ext i
  rw [vector_apply, exponent_ofList]
  by_cases hi : i < n
  · simp [hi]
  · rw [List.getD_eq_default _ _ (by simpa using hi), h i (by omega)]

/-- The vector of a base dimension is a generator. -/
theorem vector_base (i : Nat) : (base i).vector = Finsupp.single i 1 := by
  ext j
  rw [vector_apply, base, exponent_ofList, Finsupp.single_apply]
  rcases Nat.lt_trichotomy j i with h | rfl | h
  · simp [List.getElem?_append_left, h, Nat.ne_of_gt h]
  · simp
  · rw [List.getD_eq_default _ _ (by simp; omega), if_neg (Nat.ne_of_lt h)]

end Dimension

/-- Setting an exponent leaves the others. -/
theorem getD_setExponent (es : List Int) (i j : Nat) (e : Int) :
    (setExponent es i e).getD j 0 = if j = i then e else es.getD j 0 := by
  fun_induction setExponent es i e generalizing j with
  | case1 e => cases j <;> simp
  | case2 i e ih => cases j with
    | zero => simp
    | succ j => simpa using ih j
  | case3 f es e => cases j <;> simp
  | case4 f es i e ih => cases j with
    | zero => simp
    | succ j => simpa using ih j

/-- Setting the exponent behind the last one adds it at the end. -/
theorem setExponent_length (es : List Int) (e : Int) : setExponent es es.length e = es ++ [e] := by
  induction es with
  | nil => rfl
  | cons f es ih => rw [List.length_cons, setExponent, ih, List.cons_append]

/-! ## Interning -/

/-- The names are distinct, and each can be that of a base dimension. -/
structure Basis.Sound (b : Basis) : Prop where
  distinct : b.names.Nodup
  admitted : ∀ name ∈ b.names, Basis.admits name = true

/-- The nine initial base dimensions have different names, all admitted. -/
theorem Basis.sound_standard : Basis.standard.Sound :=
  ⟨by decide, by decide⟩

namespace Basis

variable {b : Basis} {name : String} {i : Nat}

/-- A name has its number. -/
theorem getElem?_of_number? (h : b.number? name = some i) : b.names[i]? = some name := by
  obtain ⟨hi, hname, -⟩ := List.idxOf?_eq_some_iff.1 (b.number?_eq_idxOf? name ▸ h)
  rw [List.getElem?_eq_getElem hi, hname]

/-- In a sound basis, the name with a number has this number. -/
theorem Sound.number? (h : b.Sound) (hi : b.names[i]? = some name) : b.number? name = some i := by
  obtain ⟨hlt, rfl⟩ := List.getElem?_eq_some_iff.1 hi
  refine (b.number?_eq_idxOf? _).trans (List.idxOf?_eq_some_iff.2 ⟨hlt, rfl, fun j hj hname => ?_⟩)
  exact Nat.ne_of_lt hj ((h.distinct.getElem_inj_iff).1 hname)

/-- A name has no number where it is not listed. -/
theorem number?_eq_none_iff : b.number? name = none ↔ name ∉ b.names := by
  rw [number?_eq_idxOf?, List.idxOf?_eq_none_iff]

/-- A name that is new stands at the number that was not given out yet. -/
theorem getElem?_insert (h : b.number? name = none) :
    (b.insert name).names[b.size]? = some name := by
  rw [names_insert h]
  exact List.getElem?_concat_length

/-- A name that is admitted and has no number can be added behind the others. -/
theorem Sound.insert (h : b.Sound) (hadmitted : Basis.admits name = true)
    (hnumber : b.number? name = none) : (b.insert name).Sound := by
  have hnew : name ∉ b.names := number?_eq_none_iff.1 hnumber
  refine ⟨?_, fun a ha => ?_⟩
  · rw [names_insert hnumber]
    refine List.nodup_append.2 ⟨h.distinct, List.nodup_singleton _, fun a ha c hc => ?_⟩
    rintro rfl
    exact hnew (List.mem_singleton.1 hc ▸ ha)
  · rw [names_insert hnumber] at ha
    rcases List.mem_append.1 ha with ha | ha
    · exact h.admitted a ha
    · rwa [List.mem_singleton.1 ha]

end Basis

namespace Session

variable {α β : Type} {s t u : Session}

/-- From the first session to the second, base dimensions are added behind the others. -/
structure Interns (s t : Session) : Prop where
  names : s.basis.names <+: t.basis.names
  sound : t.basis.Sound

/-- What is left as it is keeps its names. -/
theorem Interns.refl (h : s.basis.Sound) : s.Interns s :=
  ⟨List.prefix_refl _, h⟩

/-- Names that are kept twice are kept. -/
theorem Interns.trans (h : s.Interns t) (h' : t.Interns u) : s.Interns u :=
  ⟨h.names.trans h'.names, h'.sound⟩

/-- Names are not lost. -/
theorem Interns.size_le (h : s.Interns t) : s.basis.size ≤ t.basis.size :=
  h.names.length_le

/-- The operation adds base dimensions at most, and what it answers suits their number. -/
def Supplies (x : SessionM α) (s : Session) (P : α → Nat → Prop) : Prop :=
  ∃ t, s.Interns t ∧ ((∃ f, x.run s = .error f t) ∨ ∃ a, x.run s = .ok a t ∧ P a t.basis.size)

/-- An answer that is there already needs no new names. -/
theorem supplies_pure {P : α → Nat → Prop} {a : α} (h : s.basis.Sound) (ha : P a s.basis.size) :
    Supplies (pure a) s P :=
  ⟨s, .refl h, .inr ⟨a, rfl, ha⟩⟩

/-- What two operations supply one after another is what the second one supplies to the basis that
the first one leaves. -/
theorem Supplies.bind {x : SessionM α} {f : α → SessionM β} {P : α → Nat → Prop}
    {Q : β → Nat → Prop} (hx : Supplies x s P)
    (hf : ∀ a t, s.Interns t → P a t.basis.size → Supplies (f a) t Q) : Supplies (x >>= f) s Q := by
  obtain ⟨t, hst, ⟨e, he⟩ | ⟨a, ha, hP⟩⟩ := hx
  · exact ⟨t, hst, .inl ⟨e, run_bind_of_error he f⟩⟩
  · obtain ⟨u, htu, ⟨e, he⟩ | ⟨b, hb, hQ⟩⟩ := hf a t hst hP
    · exact ⟨u, hst.trans htu, .inl ⟨e, (run_bind_of_ok ha f).trans he⟩⟩
    · exact ⟨u, hst.trans htu, .inr ⟨b, (run_bind_of_ok ha f).trans hb, hQ⟩⟩

/-- A name that is interned already answers its number, and nothing changes. -/
theorem run_intern_of_number? {name : String} {i : Nat} (h : Basis.admits name = true)
    (hnumber : s.basis.number? name = some i) : (intern name).run s = .ok i s := by
  unfold intern
  rw [if_neg (by simp [h])]
  simp [hnumber]

/-- A name that is interned keeps its number. -/
theorem run_intern_of_getElem? (h : s.basis.Sound) {name : String} {i : Nat}
    (hi : s.basis.names[i]? = some name) : (intern name).run s = .ok i s :=
  run_intern_of_number? (h.admitted name (List.mem_of_getElem? hi)) (h.number? hi)

/-- A name that is new goes behind the others, and the gauge shows how many there are then. -/
theorem run_intern_of_number?_none {name : String} (h : Basis.admits name = true)
    (hnumber : s.basis.number? name = none) :
    (intern name).run s = .ok s.basis.size { s with
      basis := s.basis.insert name
      meters := s.meters.showDimensions (s.basis.insert name).size } := by
  unfold intern
  rw [if_neg (by simp [h])]
  simp [hnumber]

/-- A name that is not admitted is refused, and nothing changes. -/
theorem run_intern_of_not_admits {name : String} (h : Basis.admits name = false) (s : Session) :
    (intern name).run s = .error (.pipeInName name) s := by
  unfold intern
  rw [h]
  rfl

/-- Interning adds a name that is new behind the others, and answers its number. -/
theorem supplies_intern (h : s.basis.Sound) (name : String) :
    Supplies (intern name) s fun i n => i < n := by
  cases hadmitted : Basis.admits name with
  | false => exact ⟨s, .refl h, .inl ⟨_, run_intern_of_not_admits hadmitted s⟩⟩
  | true =>
    cases hnumber : s.basis.number? name with
    | some i =>
      have hi := Basis.getElem?_of_number? hnumber
      obtain ⟨hlt, -⟩ := List.getElem?_eq_some_iff.1 hi
      exact ⟨s, .refl h, .inr ⟨i, run_intern_of_getElem? h hi, hlt⟩⟩
    | none =>
      refine ⟨_, ⟨⟨[name], (Basis.names_insert hnumber).symm⟩, h.insert hadmitted hnumber⟩,
        .inr ⟨_, run_intern_of_number?_none hadmitted hnumber, ?_⟩⟩
      rw [Basis.size, Basis.size, Basis.names_insert hnumber, List.length_append]
      exact Nat.lt_succ_self _

theorem supplies_baseDimension (h : s.basis.Sound) (name : String) :
    Supplies (baseDimension name) s Dimension.Over := by
  refine (supplies_intern h name).bind fun i t hst hi => supplies_pure hst.sound ?_
  refine Dimension.over_ofList fun j hj => ?_
  rw [List.getD_eq_default _ _ (by simp; omega)]

/-- Exponents are set at interned numbers only. -/
theorem supplies_dimensionOf (h : s.basis.Sound) (exponents : List (String × Int)) :
    Supplies (dimensionOf exponents) s Dimension.Over := by
  have hset : ∀ (es : List Int) (s : Session), s.basis.Sound →
      (∀ i, s.basis.size ≤ i → es.getD i 0 = 0) →
      Supplies
        (exponents.foldlM (fun es entry => do pure (setExponent es (← intern entry.1) entry.2)) es)
        s fun es n => ∀ i, n ≤ i → es.getD i 0 = 0 := by
    -- over the entries: each sets an exponent of a number that exists by then
    induction exponents with
    | nil => exact fun es s h hes => supplies_pure h hes
    | cons entry exponents ih =>
      intro es s h hes
      rw [List.foldlM_cons, bind_assoc]
      refine (supplies_intern h entry.1).bind fun i t hst hi => ?_
      rw [pure_bind]
      refine ih _ t hst.sound fun j hj => ?_
      rw [getD_setExponent, if_neg (by omega), hes j (Nat.le_trans hst.size_le hj)]
  exact (hset [] s h (by simp)).bind fun es t hst hes =>
    supplies_pure hst.sound (Dimension.over_ofList hes)

/-- A mapping that gives every base dimension its exponent makes the vector of these exponents. -/
theorem run_dimensionOf_zip (h : s.basis.Sound) {es : List Int}
    (hlength : es.length = s.basis.size) :
    (dimensionOf (s.basis.names.zip es)).run s = .ok (Dimension.ofList es) s := by
  -- what is set so far are the exponents of the names that were gone through
  have hset : ∀ (names : List String) (before after : List Int), names.length = after.length →
      (∀ i name, names[i]? = some name → s.basis.names[before.length + i]? = some name) →
      ((names.zip after).foldlM
        (fun es entry => do pure (setExponent es (← intern entry.1) entry.2))
        before : SessionM _).run s = .ok (before ++ after) s := by
    intro names
    induction names with
    | nil =>
      intro before after hlen _
      obtain rfl := List.eq_nil_of_length_eq_zero hlen.symm
      rw [List.append_nil]
      rfl
    | cons name names ih =>
      intro before after hlen hnames
      obtain ⟨e, after, rfl⟩ := List.exists_cons_of_length_eq_add_one hlen.symm
      have hintern := run_intern_of_getElem? h (hnames 0 name rfl)
      rw [List.zip_cons_cons, List.foldlM_cons, bind_assoc, run_bind_of_ok hintern, pure_bind,
        Nat.add_zero, setExponent_length, ih, List.append_assoc, List.singleton_append]
      · simpa using hlen
      · intro i name' hi
        rw [List.length_append, List.length_singleton, Nat.add_assoc, Nat.add_comm 1]
        exact hnames (i + 1) name' hi
  unfold dimensionOf
  rw [run_bind_of_ok (hset s.basis.names [] es hlength.symm fun i name hi => by simpa using hi)]
  rfl

end Session

/-! ## Making dimensions -/

/-- A way to come by a dimension, or to add a base dimension in between. The dimensions that were
made before are meant by their places. -/
inductive Making where
  | intern (name : String)
  | base (name : String)
  | mapping (exponents : List (String × Int))
  | power (a : Nat) (n : Int)
  | multiply (a b : Nat)
  | divide (a b : Nat)

/-- What is made from the dimensions that were made before. -/
def Making.perform (made : List Dimension) : Making → SessionM (Option Dimension)
  | intern name => do
    discard (Session.intern name)
    pure none
  | base name => some <$> baseDimension name
  | mapping exponents => some <$> dimensionOf exponents
  | power a n => pure (made[a]?.map (· ^ n))
  | multiply a b => pure (made[a]?.bind fun d => made[b]?.map (d * ·))
  | divide a b => pure (made[a]?.bind fun d => made[b]?.map (d / ·))

/-- A session with the dimensions that were made in it. -/
structure Workshop where
  session : Session
  made : List Dimension

namespace Workshop

/-- How many base dimensions there are. -/
def size (w : Workshop) : Nat := w.session.basis.size

/-- Make a dimension; nothing is made where this fails. -/
def make (w : Workshop) (k : Making) : Workshop :=
  match (k.perform w.made).run w.session with
  | .ok d t => ⟨t, w.made ++ d.toList⟩
  | .error _ t => ⟨t, w.made⟩

/-- Make dimensions one after another. -/
def makeAll (w : Workshop) (ks : List Making) : Workshop :=
  ks.foldl make w

/-- The basis is sound, and what was made is over its numbers. -/
structure Sound (w : Workshop) : Prop where
  basis : w.session.basis.Sound
  bounded : ∀ d ∈ w.made, d.Over w.size

/-- One making supplies dimensions over the base dimensions that it leaves. -/
theorem supplies_perform {w : Workshop} (h : w.Sound) (k : Making) :
    Supplies (k.perform w.made) w.session fun d n => ∀ e ∈ d, e.Over n := by
  have hmade : ∀ {a : Nat} {d : Dimension}, w.made[a]? = some d → d.Over w.size := fun hd =>
    h.bounded _ (List.mem_of_getElem? hd)
  cases k with
  | intern name =>
    refine Supplies.bind (P := fun _ _ => True) ?_ fun _ t hst _ =>
      supplies_pure hst.sound (by simp)
    show Supplies ((fun _ => ()) <$> Session.intern name) _ _
    rw [map_eq_pure_bind]
    exact (supplies_intern h.basis name).bind fun _ t hst _ => supplies_pure hst.sound trivial
  | base name =>
    rw [Making.perform, map_eq_pure_bind]
    exact (supplies_baseDimension h.basis name).bind fun d t hst hd =>
      supplies_pure hst.sound (by rintro e ⟨⟩; exact hd)
  | mapping exponents =>
    rw [Making.perform, map_eq_pure_bind]
    exact (supplies_dimensionOf h.basis exponents).bind fun d t hst hd =>
      supplies_pure hst.sound (by rintro e ⟨⟩; exact hd)
  | power a n =>
    -- what is made of dimensions that are there needs no names
    refine supplies_pure h.basis fun e he => ?_
    obtain ⟨d, hd, rfl⟩ := Option.map_eq_some_iff.1 he
    exact (hmade hd).pow n
  | multiply a b =>
    refine supplies_pure h.basis fun e he => ?_
    obtain ⟨d, hd, he⟩ := Option.bind_eq_some_iff.1 he
    obtain ⟨f, hf, rfl⟩ := Option.map_eq_some_iff.1 he
    exact (hmade hd).mul (hmade hf)
  | divide a b =>
    refine supplies_pure h.basis fun e he => ?_
    obtain ⟨d, hd, he⟩ := Option.bind_eq_some_iff.1 he
    obtain ⟨f, hf, rfl⟩ := Option.map_eq_some_iff.1 he
    exact (hmade hd).div (hmade hf)

/-- One making keeps the workshop sound, whether it succeeds or not. -/
theorem Sound.make {w : Workshop} (h : w.Sound) (k : Making) : (w.make k).Sound := by
  obtain ⟨t, hst, ⟨f, hf⟩ | ⟨d, hd, hover⟩⟩ := supplies_perform h k
  · unfold Workshop.make
    rw [hf]
    exact ⟨hst.sound, fun e he => (h.bounded e he).mono hst.size_le⟩
  · unfold Workshop.make
    rw [hd]
    refine ⟨hst.sound, fun e he => ?_⟩
    rcases List.mem_append.1 he with he | he
    · exact (h.bounded e he).mono hst.size_le
    · exact hover e (Option.mem_toList.1 he)

/-- Any run of makings keeps the workshop sound. -/
theorem Sound.makeAll {w : Workshop} (h : w.Sound) (ks : List Making) : (w.makeAll ks).Sound := by
  induction ks generalizing w with
  | nil => exact h
  | cons k ks ih => exact ih (h.make k)

/-! ## The free abelian group -/

/-- No zero is stored at the end of the exponents of what was made, and none for base dimensions
that do not exist. So dimensions are equal when they agree at every number of a base dimension, and
then what is written to a table under one of them is found under the other, and under no further
one. -/
structure Canonical (w : Workshop) : Prop where
  trimmed : ∀ d ∈ w.made, d.exponents.getLast? ≠ some 0 ∧ d.exponents.length ≤ w.size
  eq_iff : ∀ a ∈ w.made, ∀ b ∈ w.made, a = b ↔ ∀ i < w.size, a.exponent i = b.exponent i
  key : ∀ a ∈ w.made, ∀ b ∈ w.made, ∀ (α : Type) (t : Table Dimension α) (x : α),
    (t.put a x).get? b =
      if ∀ i < w.size, a.exponent i = b.exponent i then some x else t.get? b

/-- The dimensions are the free abelian group over the base dimensions: base dimensions are the
generators, the algebra is that of vectors, and every vector over the base dimensions is that of
exactly one dimension, which can be made. -/
structure Free (w : Workshop) : Prop where
  supported : ∀ d ∈ w.made, ∀ i, w.size ≤ i → d.vector i = 0
  generator : ∀ name i, w.session.basis.names[i]? = some name →
    ∃ d, w.make (.base name) = ⟨w.session, w.made ++ [d]⟩ ∧ d.vector = Finsupp.single i 1
  mul : ∀ a b : Dimension, (a * b).vector = a.vector + b.vector
  pow : ∀ (a : Dimension) (n : Int), (a ^ n).vector = n • a.vector
  existsUnique : ∀ v : ℕ →₀ ℤ, (∀ i, w.size ≤ i → v i = 0) →
    ∃! d : Dimension, d.vector = v ∧ ∃ k, w.make k = ⟨w.session, w.made ++ [d]⟩

variable {w : Workshop}

/-- In a sound workshop every dimension is stored in its one trimmed form. -/
theorem Sound.canonical (h : w.Sound) : w.Canonical := by
  have heq : ∀ a ∈ w.made, ∀ b ∈ w.made, a = b ↔ ∀ i < w.size, a.exponent i = b.exponent i :=
    fun a ha b hb => Dimension.eq_iff_exponent (h.bounded a ha) (h.bounded b hb)
  refine ⟨fun d hd => ⟨d.trimmed, (h.bounded d hd).length_le⟩, heq, fun a ha b hb α t x => ?_⟩
  by_cases hab : a = b
  · rw [if_pos ((heq a ha b hb).1 hab), hab, Table.get?_put_self]
  · rw [if_neg (mt (heq a ha b hb).2 hab), Table.get?_put_of_ne t (Ne.symm hab)]

/-- In a sound workshop the base dimensions are independent. -/
theorem Sound.free (h : w.Sound) : w.Free := by
  refine ⟨fun d hd i hi => ?_, fun name i hi => ?_, Dimension.vector_mul, Dimension.vector_pow,
    fun v hv => ?_⟩
  · rw [Dimension.vector_apply]
    exact h.bounded d hd i hi
  · have hrun : (Making.perform w.made (.base name)).run w.session =
        .ok (some (Dimension.base i)) w.session := by
      rw [Making.perform, baseDimension, map_bind,
        run_bind_of_ok (run_intern_of_getElem? h.basis hi)]
      rfl
    refine ⟨Dimension.base i, ?_, Dimension.vector_base i⟩
    rw [Workshop.make, hrun]
    rfl
  · have hrun : (Making.perform w.made
        (.mapping (w.session.basis.names.zip ((List.range w.size).map v)))).run w.session =
          .ok (some (Dimension.ofList ((List.range w.size).map v))) w.session := by
      rw [Making.perform, run_map, run_dimensionOf_zip h.basis (by simp [size])]
    -- a vector is made by a mapping of all names, whose numbers stay as they are
    refine ⟨Dimension.ofList ((List.range w.size).map v),
      ⟨Dimension.vector_ofList_map hv,
        .mapping (w.session.basis.names.zip ((List.range w.size).map v)), ?_⟩, fun d hd => ?_⟩
    · rw [Workshop.make, hrun]
      rfl
    · rw [← Dimension.vector_inj, hd.1, Dimension.vector_ofList_map hv]

/-- A workshop at its beginning. -/
def initial (facilities : Facilities) (enabled : Bool) (env : Environment) : Workshop :=
  ⟨Session.initial facilities enabled env, []⟩

/-- A new workshop is sound. -/
theorem sound_initial (facilities : Facilities) (enabled : Bool) (env : Environment) :
    (initial facilities enabled env).Sound :=
  ⟨Basis.sound_standard, by simp [initial]⟩

/-- Whatever dimensions a run makes, in whatever order and with whatever base dimensions interned in
between, they are stored in one way only and are told apart by their exponents, and they are the
free abelian group over the base dimensions that there are then, with the laws of such a group. -/
theorem free_of_makings (facilities : Facilities) (enabled : Bool) (env : Environment)
    (ks : List Making) :
    ((initial facilities enabled env).makeAll ks).Canonical ∧
    ((initial facilities enabled env).makeAll ks).Free ∧
    ∀ (a b c : Dimension) (m n : Int),
      a * b * c = a * (b * c) ∧ a * b = b * a ∧ a * 1 = a ∧ a / b = a * b ^ (-1 : Int) ∧
      a / a = 1 ∧ a ^ (0 : Int) = 1 ∧ (a ^ m) ^ n = a ^ (m * n) ∧
      a ^ (m + n) = a ^ m * a ^ n ∧ (a * b) ^ n = a ^ n * b ^ n := by
  have h := (sound_initial facilities enabled env).makeAll ks
  exact ⟨h.canonical, h.free, fun a b c m n => ⟨a.mul_assoc b c, a.mul_comm b, a.mul_one,
    a.div_eq_mul_pow b, a.div_self, a.pow_zero, a.pow_pow m n, a.pow_add m n, a.mul_pow b n⟩⟩

end Workshop

end Metrology
