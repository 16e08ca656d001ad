import Mathlib.Data.List.Perm.Basic
import Metrology.Proofs.Dimension.Interning
import Metrology.Session.Standard

/-!
# Dimensions as mappings

A mapping from names to exponents makes a dimension, and the nonzero exponents of a dimension with
their names are such a mapping. The two undo one another: the factors of a dimension make this
dimension and intern nothing (`Session.run_dimensionOf_factors`), and the factors of what a mapping
makes are its entries that are not zero, in the order of the numbers, whatever order the mapping is
in and whichever of its names are new (`Session.mapping_round_trip`).
-/

namespace Metrology

open Session

namespace Basis

variable {b : Basis} {d e : Dimension} {name : String} {n : Int}

/-! ## Factors -/

/-- The factors of a dimension are its exponents other than 0, each with the name of its base
dimension. -/
theorem mem_factors :
    (name, n) ∈ b.factors d ↔ n ≠ 0 ∧ ∃ i, b.names[i]? = some name ∧ d.exponent i = n := by
  rw [factors, List.mem_filter, List.mem_iff_getElem?, and_comm, decide_eq_true_eq]
  refine and_congr_right fun hn => exists_congr fun i => ?_
  rw [List.getElem?_zip_eq_some]
  refine and_congr_right fun _ => ?_
  rw [Dimension.exponent, List.getD_eq_getElem?_getD]
  cases d.exponents[i]? with
  | none => simpa using Ne.symm hn
  | some k => simp

theorem mem_factors_of_exponent_ne_zero {i : Nat} (hi : b.names[i]? = some name)
    (h : d.exponent i ≠ 0) : (name, d.exponent i) ∈ b.factors d :=
  mem_factors.2 ⟨h, i, hi, rfl⟩

/-- The names of the factors are in the order of the numbers. -/
theorem factors_sublist (b : Basis) (d : Dimension) :
    ((b.factors d).map Prod.fst).Sublist b.names := by
  have hzip : ∀ (names : List String) (es : List Int),
      ((names.zip es).map Prod.fst).Sublist names := by
    intro names es
    induction names generalizing es with
    | nil => exact List.Sublist.refl _
    | cons name names ih => cases es with
      | nil => exact List.nil_sublist _
      | cons e es => exact (ih es).cons_cons name
  exact (List.filter_sublist.map Prod.fst).trans (hzip b.names d.exponents)

/-- In a sound basis the exponent at a name can be read from the factors. -/
theorem Sound.exponent_eq (h : b.Sound) {i : Nat} (hi : b.names[i]? = some name)
    (hn : (name, n) ∈ b.factors d) : d.exponent i = n := by
  obtain ⟨-, j, hj, hd⟩ := mem_factors.1 hn
  rw [← hd, Option.some.inj ((h.number? hi).symm.trans (h.number? hj))]

/-- No base dimension occurs twice among the factors, since no two have one name. -/
theorem Sound.factors_nodup (h : b.Sound) (d : Dimension) : ((b.factors d).map Prod.fst).Nodup :=
  (factors_sublist b d).nodup h.distinct

/-- Dimensions over the basis with the same factors are equal. -/
theorem Sound.eq_of_factors_perm (h : b.Sound) (hd : d.Over b.size) (he : e.Over b.size)
    (hperm : (b.factors d).Perm (b.factors e)) : d = e := by
  refine (Dimension.eq_iff_exponent hd he).2 fun i hi => ?_
  obtain ⟨name, hname⟩ : ∃ name, b.names[i]? = some name := ⟨_, List.getElem?_eq_getElem hi⟩
  by_cases hzero : d.exponent i = 0
  · by_contra hne
    rw [hzero] at hne
    have hmem := hperm.mem_iff.2 (mem_factors_of_exponent_ne_zero hname (Ne.symm hne))
    exact hne (hzero.symm.trans (h.exponent_eq hname hmem))
  · exact (h.exponent_eq hname
      (hperm.mem_iff.1 (mem_factors_of_exponent_ne_zero hname hzero))).symm

end Basis

namespace Session

variable {s t : Session} {m : List (String × Int)} {es fs : List Int} {d : Dimension}

/-! ## Setting exponents by name -/

/-- Interning an admitted name adds it if it is new, and changes nothing if it is not. -/
theorem exists_run_intern_names (h : s.basis.Sound) {name : String}
    (hadmitted : Basis.admits name = true) : ∃ i t, (intern name).run s = .ok i t ∧
      t.basis.Sound ∧ t.basis.names[i]? = some name ∧
      t.basis.names = s.basis.names ++ [name].filter (· ∉ s.basis.names) ∧
      (name ∈ s.basis.names → t = s) := by
  cases hnumber : s.basis.number? name with
  | some i =>
    have hi := Basis.getElem?_of_number? hnumber
    have hmem : name ∈ s.basis.names := List.mem_of_getElem? hi
    exact ⟨i, s, run_intern_of_getElem? h hi, h, hi, by simp [hmem], fun _ => rfl⟩
  | none =>
    have hnew : name ∉ s.basis.names := Basis.number?_eq_none_iff.1 hnumber
    exact ⟨_, _, run_intern_of_number?_none hadmitted hnumber, h.insert hadmitted hnumber,
      Basis.getElem?_insert hnumber, by simp [Basis.names_insert hnumber, hnew],
      fun hmem => absurd hmem hnew⟩

/-- From exponents and a session, the entries of a mapping lead to these exponents and this session:
the exponents are set at the numbers of the names and nowhere else, and the names that are new are
added in their order. -/
structure Sets (m : List (String × Int)) (es : List Int) (s : Session) (fs : List Int)
    (t : Session) : Prop where
  sound : t.basis.Sound
  names : t.basis.names = s.basis.names ++ (m.map Prod.fst).filter (· ∉ s.basis.names)
  named : ∀ name n i, (name, n) ∈ m → t.basis.names[i]? = some name → fs.getD i 0 = n
  other : ∀ i, (∀ name ∈ m.map Prod.fst, t.basis.names[i]? ≠ some name) →
    fs.getD i 0 = es.getD i 0
  same : (∀ name ∈ m.map Prod.fst, name ∈ s.basis.names) → t = s

/-- Names that were interned before stay where they were. -/
theorem Sets.prefix_names (h : Sets m es s fs t) : s.basis.names <+: t.basis.names :=
  ⟨_, h.names.symm⟩

/-- Setting the entry of a name that does not occur further on. -/
theorem Sets.cons {name : String} {n : Int} {i : Nat} {u : Session}
    (hnew : name ∉ m.map Prod.fst) (hi : u.basis.names[i]? = some name)
    (hnames : u.basis.names = s.basis.names ++ [name].filter (· ∉ s.basis.names))
    (hsame : name ∈ s.basis.names → u = s) (h : Sets m (setExponent es i n) u fs t) :
    Sets ((name, n) :: m) es s fs t := by
  have hstays : t.basis.names[i]? = some name := by
    obtain ⟨hlt, hname⟩ := List.getElem?_eq_some_iff.1 hi
    rw [List.prefix_iff_getElem?.1 h.prefix_names i hlt, hname]
  have hnumber : ∀ j, t.basis.names[j]? = some name → j = i := fun j hj =>
    Option.some.inj ((h.sound.number? hj).symm.trans (h.sound.number? hstays))
  -- the name is not among those that follow, so what follows leaves its exponent
  have hset : fs.getD i 0 = n := by
    rw [h.other i fun name' hname' heq => hnew ?_, getD_setExponent, if_pos rfl]
    rw [hstays] at heq
    exact Option.some.inj heq ▸ hname'
  refine ⟨h.sound, ?_, ?_, ?_, ?_⟩
  · have hfilter : (m.map Prod.fst).filter (· ∉ u.basis.names) =
        (m.map Prod.fst).filter (· ∉ s.basis.names) := by
      refine List.filter_congr fun other hother => ?_
      have hne : other ≠ name := fun heq => hnew (heq ▸ hother)
      simp [hnames, hne]
    rw [h.names, hfilter, hnames, List.append_assoc, ← List.filter_append]
    rfl
  · rintro name' n' j hmem hj
    rcases List.mem_cons.1 hmem with heq | hmem
    · obtain ⟨rfl, rfl⟩ := Prod.mk.inj heq
      rw [hnumber j hj, hset]
    · exact h.named name' n' j hmem hj
  · intro j hj
    have hne : j ≠ i := fun heq => hj name List.mem_cons_self (heq ▸ hstays)
    rw [h.other j fun name' hname' => hj name' (List.mem_cons_of_mem _ hname'), getD_setExponent,
      if_neg hne]
  · intro hknown
    obtain rfl := hsame (hknown name List.mem_cons_self)
    exact h.same fun name' hname' => hknown name' (List.mem_cons_of_mem _ hname')

/-- Setting the exponents of a mapping succeeds where its keys are admitted and differ from each
other. -/
theorem exists_sets (h : s.basis.Sound) (hnodup : (m.map Prod.fst).Nodup)
    (hadmitted : ∀ name ∈ m.map Prod.fst, Basis.admits name = true) (es : List Int) :
    ∃ fs t, (m.foldlM (fun es entry => do pure (setExponent es (← intern entry.1) entry.2))
      es : SessionM _).run s = .ok fs t ∧ Sets m es s fs t := by
  induction m generalizing s es with
  | nil => exact ⟨es, s, rfl, h, by simp, by simp, fun _ _ => rfl, fun _ => rfl⟩
  | cons entry m ih =>
    obtain ⟨name, n⟩ := entry
    obtain ⟨hnew, hnodup⟩ := List.nodup_cons.1 hnodup
    obtain ⟨i, u, hrun, hu, hi, hnames, hsame⟩ :=
      exists_run_intern_names h (hadmitted name List.mem_cons_self)
    obtain ⟨fs, t, hrest, hsets⟩ := ih hu hnodup
      (fun name' hname' => hadmitted name' (List.mem_cons_of_mem _ hname')) (setExponent es i n)
    refine ⟨fs, t, ?_, hsets.cons hnew hi hnames hsame⟩
    rw [List.foldlM_cons, bind_assoc, run_bind_of_ok hrun, pure_bind, hrest]

/-! ## There and back -/

/-- In a session, a mapping makes a dimension and leads to another session. -/
structure Mapped (m : List (String × Int)) (s : Session) (d : Dimension) (t : Session) : Prop where
  /-- The factors are the entries that are not zero. -/
  perm : (t.basis.factors d).Perm (m.filter fun entry => entry.2 ≠ 0)
  /-- The factors are in the order of the numbers. -/
  ordered : ((t.basis.factors d).map Prod.fst).Sublist t.basis.names
  /-- The names that are new are added behind the others, in the order of the mapping. -/
  names : t.basis.names = s.basis.names ++ (m.map Prod.fst).filter (· ∉ s.basis.names)
  /-- Every name is interned, also where its exponent is zero. -/
  interned : ∀ name ∈ m.map Prod.fst, name ∈ t.basis.names
  /-- Where no name is new, nothing changes. -/
  same : (∀ name ∈ m.map Prod.fst, name ∈ s.basis.names) → t = s
  sound : t.basis.Sound
  supported : d.Over t.basis.size

/-- Where no key occurs twice, the exponents that were set are those of the mapping. -/
theorem Sets.mapped (hnodup : (m.map Prod.fst).Nodup) (h : Sets m [] s fs t) :
    Mapped m s (Dimension.ofList fs) t := by
  have hinterned : ∀ name ∈ m.map Prod.fst, name ∈ t.basis.names := by
    intro name hname
    rw [h.names, List.mem_append, List.mem_filter, decide_eq_true_eq]
    exact (Classical.em (name ∈ s.basis.names)).imp_right fun hnew => ⟨hname, hnew⟩
  have hordered := Basis.factors_sublist t.basis (Dimension.ofList fs)
  refine ⟨?_, hordered, h.names, hinterned, h.same, h.sound, ?_⟩
  · refine (List.perm_ext_iff_of_nodup (.of_map _ (hordered.nodup h.sound.distinct))
      ((List.Nodup.of_map _ hnodup).filter _)).2 fun ⟨name, n⟩ => ?_
    rw [Basis.mem_factors, List.mem_filter, decide_eq_true_eq, and_comm]
    refine and_congr_left fun hn => ⟨?_, fun hmem => ?_⟩
    · rintro ⟨i, hi, hexponent⟩
      rw [Dimension.exponent_ofList] at hexponent
      by_cases hname : name ∈ m.map Prod.fst
      · obtain ⟨⟨name', n'⟩, hmem, rfl⟩ := List.mem_map.1 hname
        rwa [← hexponent, h.named name' n' i hmem hi]
      · -- an exponent that was not set is zero
        refine absurd ?_ hn
        rw [← hexponent, h.other i, List.getD_nil]
        intro name' hname' heq
        rw [hi] at heq
        exact hname (Option.some.inj heq ▸ hname')
    · obtain ⟨i, hi⟩ := List.mem_iff_getElem?.1 (hinterned name (List.mem_map_of_mem hmem))
      exact ⟨i, hi, by rw [Dimension.exponent_ofList, h.named name n i hmem hi]⟩
  · refine Dimension.over_ofList fun i hi => ?_
    rw [h.other i fun name _ => ?_, List.getD_nil]
    rw [List.getElem?_eq_none hi]
    exact nofun

/-- A mapping with admitted keys has a dimension, which maps each key to its exponent. -/
theorem exists_mapped (h : s.basis.Sound) (hnodup : (m.map Prod.fst).Nodup)
    (hadmitted : ∀ name ∈ m.map Prod.fst, Basis.admits name = true) :
    ∃ d t, (dimensionOf m).run s = .ok d t ∧ Mapped m s d t := by
  obtain ⟨fs, t, hrun, hsets⟩ := exists_sets h hnodup hadmitted []
  refine ⟨Dimension.ofList fs, t, ?_, hsets.mapped hnodup⟩
  unfold dimensionOf
  rw [run_bind_of_ok hrun]
  rfl

/-- A mapping with the factors of a dimension, in any order and with any zeros of interned names
between them, makes this dimension and changes nothing. -/
theorem run_dimensionOf_of_perm (h : s.basis.Sound) (hd : d.Over s.basis.size)
    (hnodup : (m.map Prod.fst).Nodup) (hknown : ∀ name ∈ m.map Prod.fst, name ∈ s.basis.names)
    (hperm : (m.filter fun entry => entry.2 ≠ 0).Perm (s.basis.factors d)) :
    (dimensionOf m).run s = .ok d s := by
  obtain ⟨e, t, hrun, hmapped⟩ :=
    exists_mapped h hnodup fun name hname => h.admitted name (hknown name hname)
  obtain rfl := hmapped.same hknown
  rw [hrun, h.eq_of_factors_perm hmapped.supported hd (hmapped.perm.trans hperm)]

/-- The factors of a dimension are mapped to it again, without a new name. -/
theorem run_dimensionOf_factors (h : s.basis.Sound) (hd : d.Over s.basis.size) :
    (dimensionOf (s.basis.factors d)).run s = .ok d s := by
  have hfilter : (s.basis.factors d).filter (fun entry => entry.2 ≠ 0) = s.basis.factors d :=
    List.filter_eq_self.2 fun entry hentry =>
      decide_eq_true (Basis.mem_factors.1 hentry).1
  exact run_dimensionOf_of_perm h hd (h.factors_nodup d)
    (fun name hname => (Basis.factors_sublist _ d).subset hname) (.of_eq hfilter)

/-- Dimensions and mappings undo one another. The factors of a dimension make this dimension and
change nothing. A mapping of distinct names without the pipe character makes a dimension whose
factors are the entries that are not zero in the order of the numbers, and interns all its names;
from then on it makes the same dimension in any order, and changes nothing. -/
theorem mapping_round_trip (h : s.basis.Sound) :
    (∀ d : Dimension, d.Over s.basis.size → (dimensionOf (s.basis.factors d)).run s = .ok d s) ∧
    ∀ m : List (String × Int), (m.map Prod.fst).Nodup →
      (∀ name ∈ m.map Prod.fst, '|' ∉ name.toList) →
      ∃ d t, (dimensionOf m).run s = .ok d t ∧ Mapped m s d t ∧
        ∀ m' : List (String × Int), m'.Perm m → (dimensionOf m').run t = .ok d t := by
  refine ⟨fun d hd => run_dimensionOf_factors h hd, fun m hnodup hpipe => ?_⟩
  obtain ⟨d, t, hrun, hmapped⟩ :=
    exists_mapped h hnodup fun name hname => admits_iff.2 (hpipe name hname)
  refine ⟨d, t, hrun, hmapped, fun m' hm' => ?_⟩
  have hnames : (m'.map Prod.fst).Perm (m.map Prod.fst) := hm'.map Prod.fst
  exact run_dimensionOf_of_perm hmapped.sound hmapped.supported (hnames.nodup_iff.2 hnodup)
    (fun name hname => hmapped.interned name (hnames.mem_iff.1 hname))
    ((hm'.filter _).trans hmapped.perm.symm)

/-- With the standard base dimensions, a mapping with a new name, two known ones and a zero. -/
theorem mapping_round_trip_start : (start true []).basis.Sound ∧
    (dimensionOf [("second", -1)]).run (start true []) =
      .ok (Dimension.ofList [0, 0, -1]) (start true []) ∧
    ∃ d t, (dimensionOf [("lap", 0), ("second", -1), ("metre", 1)]).run (start true []) = .ok d t ∧
      (t.basis.factors d).Perm [("second", -1), ("metre", 1)] ∧ "lap" ∈ t.basis.names := by
  obtain ⟨hback, hthere⟩ := mapping_round_trip (s := start true []) Basis.sound_standard
  refine ⟨Basis.sound_standard, ?_, ?_⟩
  · have hfactors : (start true []).basis.factors (.ofList [0, 0, -1]) = [("second", -1)] := by
      decide
    rw [← hfactors, hback]
    exact Dimension.over_ofList fun i hi => List.getD_eq_default _ _ (Nat.le_trans (by decide) hi)
  · obtain ⟨d, t, hrun, hmapped, -⟩ :=
      hthere [("lap", 0), ("second", -1), ("metre", 1)] (by decide) (by decide)
    exact ⟨d, t, hrun, hmapped.perm, hmapped.interned "lap" (by decide)⟩

end Session

end Metrology
