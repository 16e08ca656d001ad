import Metrology.Proofs.Session.Operation
import Metrology.Session.Lookup
import Metrology.Session.Standard

/-!
# Units in the place of others

A unit that is not named can be resolved to one that is worth the same. A registry answers with the
first unit, in the order of registration, that agrees with it in dimension and factor, whether that
unit is named or not. So the answer is found once and for all (`Registry.resolve?_of_prefix`), and
it is the first *named* unit that agrees exactly where nothing without a name was registered before
that one (`Session.resolveNamed?_of_play`).
-/

namespace Metrology

open Session

namespace Registry

variable {r : Registry} {cs : List Conversion} {m u : Measure}

/-- The first registered unit that agrees with a unit. -/
def firstAgreeing? (r : Registry) (m : Measure) : Option Measure :=
  r.units.find? fun u => u.agrees m

/-- The first registered unit that is named and agrees with a unit. -/
def firstNamed? (r : Registry) (m : Measure) : Option Measure :=
  r.units.find? fun u => u.named && u.agrees m

/-- Looking through the units of the dimension finds what looking through all units finds. -/
theorem Recorded.resolve?_eq (h : r.Recorded cs) (m : Measure) :
    r.resolve? m = if m.named then some m else r.firstAgreeing? m := by
  rw [resolve?, h.determined.unitsOf, List.find?_filter, firstAgreeing?]
  congr 2
  funext u
  simp [Denomination.agrees, Denomination.compatible, Bool.and_comm]

/-- The unit in front of which no registered unit agrees. -/
theorem firstAgreeing?_eq_some_iff : r.firstAgreeing? m = some u ↔
    ∃ before rest, r.units = before ++ u :: rest ∧ u.agrees m = true ∧
      ∀ v ∈ before, v.agrees m = false := by
  rw [firstAgreeing?, List.find?_eq_some_iff_append]
  constructor
  · rintro ⟨hu, before, rest, hunits, hbefore⟩
    exact ⟨before, rest, hunits, hu, by simpa using hbefore⟩
  · rintro ⟨before, rest, hunits, hu, hbefore⟩
    exact ⟨hu, before, rest, hunits, by simpa using hbefore⟩

/-- No unit is found where none agrees. -/
theorem firstAgreeing?_eq_none_iff :
    r.firstAgreeing? m = none ↔ ∀ u ∈ r.units, u.agrees m = false := by
  simp [firstAgreeing?]

/-- The first unit that agrees is the first named one exactly if it is named itself. -/
theorem firstAgreeing?_eq_firstNamed?_iff :
    r.firstAgreeing? m = r.firstNamed? m ↔ ∀ u, r.firstAgreeing? m = some u → u.named = true := by
  constructor
  · intro h u hu
    have hnamed := List.find?_some (h.symm.trans hu)
    exact (Bool.and_eq_true_iff.1 hnamed).1
  · intro h
    cases hfirst : r.firstAgreeing? m with
    | none =>
      rw [firstAgreeing?_eq_none_iff] at hfirst
      refine (List.find?_eq_none.2 fun u hu => ?_).symm
      simp [hfirst u hu]
    | some u =>
      obtain ⟨before, rest, hunits, hu, hbefore⟩ := firstAgreeing?_eq_some_iff.1 hfirst
      -- in front of the first one that agrees there is no named one that does
      refine (List.find?_eq_some_iff_append.2 ⟨?_, before, rest, hunits, fun v hv => ?_⟩).symm
      · rw [h u hfirst, hu]
        rfl
      · simp [hbefore v hv]

/-- Units that are registered later do not change an answer that there is. -/
theorem firstAgreeing?_of_prefix {r' : Registry} (h : r.units <+: r'.units)
    (hu : r.firstAgreeing? m = some u) : r'.firstAgreeing? m = some u := by
  obtain ⟨more, hmore⟩ := h
  rw [firstAgreeing?] at hu ⊢
  rw [← hmore, List.find?_append, hu]
  rfl

/-- A registry that knows more units resolves a unit alike, if it was resolved before. -/
theorem resolve?_of_prefix {r' : Registry} {cs' : List Conversion} (h : r.Recorded cs)
    (h' : r'.Recorded cs') (hunits : r.units <+: r'.units) (hu : r.resolve? m = some u) :
    r'.resolve? m = some u := by
  rw [h.resolve?_eq] at hu
  rw [h'.resolve?_eq]
  split at hu
  · rwa [if_pos ‹_›]
  · rw [if_neg ‹_›]
    exact firstAgreeing?_of_prefix hunits hu

end Registry

namespace Session

/-- After every run, resolving a unit changes nothing. A named unit is resolved to itself. Any other
is resolved to the first registered unit that agrees with it in dimension and factor, named or not,
and to none exactly if no registered unit agrees with it. This is the first named unit that agrees
with it exactly if the answer, where there is one, is named, so in particular as long as no unit
without a name agrees with it. A unit that was resolved is resolved to the same one ever after. -/
theorem resolveNamed?_of_play (f : Facilities) (enabled : Bool) (env : Environment)
    (ops : List Operation) (s : Session) (hs : s = play ops (initial f enabled env)) (id : Nat)
    (r : Registry)
    (hr : s.registries[id]? = some r) (m : Measure) :
    ∃ answer, (resolveNamed? id m).run s = .ok answer s ∧
      (m.named = true → answer = some m) ∧
      (m.named = false →
        (∀ u, answer = some u ↔ ∃ before rest, r.units = before ++ u :: rest ∧
          u.agrees m = true ∧ ∀ v ∈ before, v.agrees m = false) ∧
        (answer = none ↔ ∀ u ∈ r.units, u.agrees m = false) ∧
        (answer = r.firstNamed? m ↔ ∀ u, answer = some u → u.named = true) ∧
        ((∀ u ∈ r.units, u.agrees m = true → u.named = true) → answer = r.firstNamed? m)) ∧
      ∀ u, answer = some u → ∀ more, (resolveNamed? id m).run (play more s) =
        .ok (some u) (play more s) := by
  subst hs
  obtain ⟨cs, hcs⟩ := exists_recorded_of_play hr
  have hrun : ∀ (t : Session) (r' : Registry), t.registries[id]? = some r' →
      (resolveNamed? id m).run t = .ok (r'.resolve? m) t := by
    intro t r' ht
    rw [← registryAt_of_getElem? ht]
    exact run_bind_of_ok (run_registry id t) _
  have hresolve := hcs.resolve?_eq m
  refine ⟨_, hrun _ r hr, fun hm => ?_, fun hm => ?_, fun u hu more => ?_⟩
  · rw [hresolve, if_pos hm]
  · rw [hresolve, if_neg (by simp [hm])]
    have hnamed := Registry.firstAgreeing?_eq_firstNamed?_iff (r := r) (m := m)
    refine ⟨fun u => Registry.firstAgreeing?_eq_some_iff, Registry.firstAgreeing?_eq_none_iff,
      hnamed, fun hall => hnamed.2 fun u hu => ?_⟩
    obtain ⟨before, rest, hunits, hagrees, -⟩ := Registry.firstAgreeing?_eq_some_iff.1 hu
    exact hall u (by simp [hunits]) hagrees
  -- units are added behind the others, so the first one stays the first
  · obtain ⟨r', hr', hunits, hcs'⟩ := recorded_of_play hr hcs more
    rw [hrun _ r' hr', Registry.resolve?_of_prefix hcs hcs' hunits hu]

/-- A registry that knows a thousand meters without a name before it knows the kilometer. -/
def thousandfold : List Operation :=
  [.create "lab", .register 0 (.unit ⟨.times 1000.0 Catalog.meter, 500⟩),
    .register 0 (.unit Catalog.kilometer)]

theorem resolveNamed?_of_play_kilometer :
    ∃ u r, (play thousandfold (start true [])).registries[0]? = some r ∧
      (resolveNamed? 0 ⟨.times 1000.0 Catalog.meter, 501⟩).run (play thousandfold (start true [])) =
        .ok (some u) (play thousandfold (start true [])) ∧ u.named = false := by
  obtain ⟨r, hr⟩ : ∃ r, (play thousandfold (start true [])).registries[0]? = some r := ⟨_, rfl⟩
  obtain ⟨answer, hrun, -, hfirst, -⟩ := resolveNamed?_of_play .standard true [] thousandfold _ rfl
    0 r hr ⟨.times 1000.0 Catalog.meter, 501⟩
  cases hr
  have hanswer := ((hfirst rfl).1 ⟨.times 1000.0 Catalog.meter, 500⟩).2
    ⟨[], [Catalog.kilometer], rfl, by decide, nofun⟩
  subst hanswer
  exact ⟨_, _, rfl, hrun, rfl⟩

/-- So the answer is not always the first named unit that agrees. -/
theorem not_forall_resolveNamed?_named :
    ¬ ∀ (enabled : Bool) (env : Environment) (ops : List Operation) (id : Nat) (r : Registry)
      (m : Measure) (answer : Option Measure) (t : Session),
      (play ops (start enabled env)).registries[id]? = some r →
      (resolveNamed? id m).run (play ops (start enabled env)) = .ok answer t →
      answer = if m.named then some m else r.firstNamed? m := by
  intro hall
  have h := hall true [] thousandfold 0 _ ⟨.times 1000.0 Catalog.meter, 501⟩ _ _ rfl rfl
  have hnamed := congrArg (Option.map fun u => u.named) h
  exact absurd hnamed (by decide)

end Session

end Metrology
