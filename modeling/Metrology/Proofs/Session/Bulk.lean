import Metrology.Proofs.Dimension.Mapping
import Metrology.Proofs.Registry.Standard
import Metrology.Session.Standard

/-!
# Operations on many elements

Naming dimensions in a mapping and registering several units work through their elements one by one.
An element that is refused ends them there: what the elements in front of it did stays done, as if
the operation had been asked for these alone (`StopsAtFirst`), and nothing behind it is looked at.
So a refusal leaves the tables as they were exactly if nothing in front of it was new
(`Session.bulk_stops_at_first`).
-/

namespace Metrology

open Session

/-- What is given in the place of a unit, if it is none. -/
def UnitRef.kind? : UnitRef → Option String
  | .unit _ => none
  | .name _ => some "str"
  | .other kind => some kind

/-- Registering the units in order, one registered twice counting once. -/
def Registry.registerEach (r : Registry) (ms : List Measure) : Registry :=
  ms.foldl Registry.register r

namespace Registry

variable {r : Registry} {m : Measure} {ms : List Measure}

theorem isRegistered_of_prefix {r' : Registry} (h : r.units <+: r'.units)
    (hm : r.isRegistered m = true) : r'.isRegistered m = true := by
  obtain ⟨u, hu, hsame⟩ := isRegistered_iff.1 hm
  exact isRegistered_iff.2 ⟨u, h.subset hu, hsame⟩

/-- Registering units one after another removes none. -/
theorem units_prefix_registerEach (r : Registry) (ms : List Measure) :
    r.units <+: (r.registerEach ms).units := by
  induction ms generalizing r with
  | nil => exact List.prefix_refl _
  | cons m ms ih => exact (r.units_prefix_register m).trans (ih (r.register m))

/-- Every one of the units is registered in the end. -/
theorem isRegistered_registerEach (r : Registry) (hm : m ∈ ms) :
    (r.registerEach ms).isRegistered m = true := by
  induction ms generalizing r with
  | nil => cases hm
  | cons u ms ih =>
    rcases List.mem_cons.1 hm with rfl | hm
    · exact isRegistered_of_prefix (units_prefix_registerEach _ ms) (r.isRegistered_register m)
    · exact ih (r.register u) hm

end Registry

namespace Session

variable {α β γ : Type} {s t : Session}

/-! ## Stopping at the first element that is refused -/

/-- The operation succeeds if none of its elements is refused. Otherwise it fails with the refusal
of the first, and leaves what it leaves where it is given those in front of this one only. -/
structure StopsAtFirst (refusal : α → Option Fault) (bulk : List α → SessionM β) : Prop where
  completes : ∀ l, (∀ a ∈ l, refusal a = none) → ∀ s, ∃ b, (bulk l).run s = .ok b (after (bulk l) s)
  stops : ∀ before a rest f, (∀ b ∈ before, refusal b = none) → refusal a = some f → ∀ s,
    (bulk (before ++ a :: rest)).run s = .error f (after (bulk before) s)

/-- A loop stops at the first element that is refused if each of its steps fails with the refusal,
where there is one, without having changed anything, and succeeds where there is none. -/
theorem stopsAtFirst_foldlM {refusal : α → Option Fault} {step : γ → α → SessionM γ}
    (hstep : ∀ c a s, refusal a = none → ∃ d t, (step c a).run s = .ok d t)
    (hrefused : ∀ c a s f, refusal a = some f → (step c a).run s = .error f s)
    (c : γ) : StopsAtFirst refusal fun l : List α => l.foldlM step c := by
  -- without a refusal every step succeeds, whatever the state before it
  have hcompletes : ∀ l : List α, (∀ a ∈ l, refusal a = none) → ∀ c s, ∃ d,
      (l.foldlM step c).run s = .ok d (after (l.foldlM step c) s) := by
    intro l hl
    induction l with
    | nil => exact fun c s => ⟨c, rfl⟩
    | cons a l ih =>
      intro c s
      obtain ⟨d, t, ha⟩ := hstep c a s (hl a List.mem_cons_self)
      rw [List.foldlM_cons, run_bind_of_ok ha, after_bind_of_ok ha]
      exact ih (fun b hb => hl b (List.mem_cons_of_mem a hb)) d t
  refine ⟨fun l hl s => hcompletes l hl c s, fun before a rest f hbefore ha s => ?_⟩
  obtain ⟨d, hrun⟩ := hcompletes before hbefore c s
  rw [List.foldlM_append, run_bind_of_ok hrun, List.foldlM_cons]
  exact run_bind_of_error (hrefused d a _ f ha) _

/-- Handing the result on changes nothing about where the operation stops. -/
theorem StopsAtFirst.map {refusal : α → Option Fault} {bulk : List α → SessionM β}
    (h : StopsAtFirst refusal bulk) (g : β → γ) : StopsAtFirst refusal fun l => g <$> bulk l := by
  refine ⟨fun l hl s => ?_, fun before a rest f hbefore ha s => ?_⟩
  · obtain ⟨b, hb⟩ := h.completes l hl s
    exact ⟨g b, by rw [run_map, hb, after_map]⟩
  · rw [run_map, h.stops before a rest f hbefore ha s, after_map]

theorem forM_eq_foldlM (x : α → SessionM Unit) (l : List α) :
    l.forM x = l.foldlM (fun _ a => x a) () := by
  induction l with
  | nil => rfl
  | cons a l ih =>
    rw [List.foldlM_cons, show (a :: l).forM x = (x a >>= fun _ => l.forM x) from rfl, ih]

/-- A list without a refused element is all in front; any other divides at its first one. -/
theorem StopsAtFirst.ok_iff {refusal : α → Option Fault} {bulk : List α → SessionM β}
    (h : StopsAtFirst refusal bulk) (l : List α) (s : Session) :
    (∃ b t, (bulk l).run s = .ok b t) ↔ ∀ a ∈ l, refusal a = none := by
  refine ⟨fun ⟨b, t, hb⟩ => ?_, fun hl => ?_⟩
  · cases hfind : l.find? fun a => (refusal a).isSome with
    | none => simpa using hfind
    | some a =>
      obtain ⟨ha, before, rest, rfl, hbefore⟩ := List.find?_eq_some_iff_append.1 hfind
      obtain ⟨f, hf⟩ := Option.isSome_iff_exists.1 ha
      rw [h.stops before a rest f (by simpa using hbefore) hf s] at hb
      cases hb
  · obtain ⟨b, hb⟩ := h.completes l hl s
    exact ⟨b, _, hb⟩

/-! ## Mappings -/

/-- A name with the pipe character is refused. -/
def pipeRefusal (entry : String × Int) : Option Fault :=
  if Basis.admits entry.1 then none else some (.pipeInName entry.1)

/-- An entry is refused for its name only, and only for the separator in it. -/
theorem pipeRefusal_eq_none_iff {entry : String × Int} :
    pipeRefusal entry = none ↔ '|' ∉ entry.1.toList := by
  rw [← admits_iff, pipeRefusal]
  split <;> simp [*]

theorem pipeRefusal_of_mem {entry : String × Int} (h : '|' ∈ entry.1.toList) :
    pipeRefusal entry = some (.pipeInName entry.1) :=
  if_neg fun hadmits => admits_iff.1 hadmits h

/-- A mapping is taken in up to the first entry that is refused. -/
theorem stopsAtFirst_dimensionOf : StopsAtFirst pipeRefusal dimensionOf := by
  have hloop : StopsAtFirst pipeRefusal fun m : List (String × Int) =>
      m.foldlM (fun es entry => do pure (setExponent es (← intern entry.1) entry.2))
        ([] : List Int) := by
    refine stopsAtFirst_foldlM (fun es entry s hentry => ?_) (fun es entry s f hentry => ?_) []
    · obtain ⟨i, t, hrun⟩ := exists_run_intern
        (admits_iff.2 (pipeRefusal_eq_none_iff.1 hentry)) s
      exact ⟨setExponent es i entry.2, t, run_bind_of_ok hrun _⟩
    · unfold pipeRefusal at hentry
      split at hentry
      · cases hentry
      · rename_i hadmits
        cases hentry
        exact run_bind_of_error (run_intern_of_not_admits (by simpa using hadmits) s) _
  exact hloop.map Dimension.ofList

/-! ## Units -/

/-- What is not a unit is refused. -/
def kindRefusal (u : UnitRef) : Option Fault :=
  u.kind?.map (.notAUnit .registration)

/-- Only a unit can be registered. -/
theorem kindRefusal_eq_none_iff {u : UnitRef} : kindRefusal u = none ↔ ∃ m, u = .unit m := by
  cases u <;> simp [kindRefusal, UnitRef.kind?]

/-- Units are registered up to the first reference that is refused. -/
theorem stopsAtFirst_registerRef (id : Nat) :
    StopsAtFirst kindRefusal fun us => us.forM (registerRef id) := by
  simp only [forM_eq_foldlM]
  refine stopsAtFirst_foldlM (fun _ u s hu => ?_) (fun _ u s f hu => ?_) ()
  · obtain ⟨m, rfl⟩ := kindRefusal_eq_none_iff.1 hu
    obtain ⟨v, hrun⟩ := total_register id m s
    exact ⟨v, _, hrun⟩
  · cases u with
    | unit m => cases hu
    | name text =>
      cases hu
      rfl
    | other kind =>
      cases hu
      rfl

theorem forM_registerRef_unit (id : Nat) (ms : List Measure) :
    (ms.map UnitRef.unit).forM (registerRef id) = registerAll id ms := by
  rw [registerAll, forM_eq_foldlM, forM_eq_foldlM, List.foldlM_map]
  rfl

/-- Registering units in order writes them into the registry, and nothing else apart from the
meters. -/
theorem writes_registerAll (id : Nat) (ms : List Measure) :
    Writes (registerAll id ms) id (·.registerEach ms) :=
  Writes.forM (f := Registry.register) writes_register ms

/-- Where all units are registered, nothing changes. -/
theorem after_registerAll_eq_self_iff {id : Nat} {r : Registry} (h : s.registries[id]? = some r)
    {ms : List Measure} :
    after (registerAll id ms) s = s ↔ ∀ m ∈ ms, r.isRegistered m = true := by
  constructor
  · intro hsame m hm
    obtain ⟨meters, hrun⟩ := writes_registerAll id ms s r h
    have hregistries := congrArg (fun t => t.registries[id]?) (after_of_ok hrun)
    simp only [hsame, h, getElem?_set_of_getElem? h, Option.some.injEq] at hregistries
    rw [hregistries]
    exact r.isRegistered_registerEach hm
  · intro hall
    -- over the units, each of which changes nothing
    induction ms with
    | nil => rfl
    | cons m ms ih =>
      have hm : (register id m).run s = .ok () s := by
        rw [run_register, registryAt_of_getElem? h]
        exact if_pos (hall m List.mem_cons_self)
      exact (after_bind_of_ok hm _).trans (ih fun u hu => hall u (List.mem_cons_of_mem m hu))

/-! ## What a refusal leaves -/

/-- Naming dimensions in a mapping and registering several units succeed exactly if every name is
free of the pipe character and every element is a unit. Otherwise the first element that is refused
is reported, nothing behind it is looked at, and everything in front of it is done as if it had been
asked for alone: the names in front are interned, the units in front are registered. So nothing
changes exactly if all of these were interned or registered before. -/
theorem bulk_stops_at_first (h : s.basis.Sound) :
    (∀ m : List (String × Int), (m.map Prod.fst).Nodup →
      ((∃ d t, (dimensionOf m).run s = .ok d t) ↔ ∀ name ∈ m.map Prod.fst, '|' ∉ name.toList) ∧
      ∀ before name n rest, m = before ++ (name, n) :: rest →
        (∀ other ∈ before.map Prod.fst, '|' ∉ other.toList) → '|' ∈ name.toList →
        let t := after (dimensionOf before) s
        (dimensionOf m).run s = .error (.pipeInName name) t ∧
        t.basis.names =
          s.basis.names ++ (before.map Prod.fst).filter (· ∉ s.basis.names) ∧
        (t = s ↔ ∀ other ∈ before.map Prod.fst, other ∈ s.basis.names)) ∧
    ∀ id r, s.registries[id]? = some r → ∀ us : List UnitRef,
      ((∃ u t, (us.forM (registerRef id)).run s = .ok u t) ↔ ∀ u ∈ us, ∃ m, u = .unit m) ∧
      ∀ ms u kind rest, us = ms.map UnitRef.unit ++ u :: rest → u.kind? = some kind →
        let t := after (registerAll id ms) s
        (us.forM (registerRef id)).run s = .error (.notAUnit .registration kind) t ∧
        (∃ meters, t = { s with
          registries := s.registries.set id (r.registerEach ms), meters }) ∧
        (t = s ↔ ∀ m ∈ ms, r.isRegistered m = true) := by
  refine ⟨fun m hnodup => ⟨?_, ?_⟩, fun id r hr us => ⟨?_, ?_⟩⟩
  · rw [stopsAtFirst_dimensionOf.ok_iff]
    simp only [pipeRefusal_eq_none_iff, List.forall_mem_map]
  · rintro before name n rest rfl hbefore hname
    rw [List.map_append] at hnodup
    obtain ⟨d, t, hrun, hmapped⟩ := exists_mapped h hnodup.of_append_left fun other hother =>
      admits_iff.2 (hbefore other hother)
    -- the entries before the refused one are taken in as a mapping of their own
    have hstops := stopsAtFirst_dimensionOf.stops before (name, n) rest _
      (fun entry hentry => pipeRefusal_eq_none_iff.2
        (hbefore entry.1 (List.mem_map_of_mem hentry))) (pipeRefusal_of_mem hname) s
    dsimp only
    rw [hstops, after_of_ok hrun]
    refine ⟨rfl, hmapped.names, fun hsame other hother => ?_, hmapped.same⟩
    rw [← hsame]
    exact hmapped.interned other hother
  · rw [(stopsAtFirst_registerRef id).ok_iff]
    simp only [kindRefusal_eq_none_iff]
  · rintro ms u kind rest rfl hkind
    have hstops := (stopsAtFirst_registerRef id).stops (ms.map UnitRef.unit) u rest
      (.notAUnit .registration kind) (by simp [kindRefusal, UnitRef.kind?])
      (by simp [kindRefusal, hkind]) s
    obtain ⟨meters, hrun⟩ := writes_registerAll id ms s r hr
    rw [forM_registerRef_unit] at hstops
    exact ⟨hstops, ⟨meters, after_of_ok hrun⟩, after_registerAll_eq_self_iff hr⟩

/-- A mapping in which a new name stands in front of one with the pipe character, and a unit in
front of a name. -/
theorem bulk_stops_at_first_lap_meter :
    (start true []).basis.Sound ∧
    (∃ t, (dimensionOf [("lap", 1), ("pit|stop", -1)]).run (start true []) =
        .error (.pipeInName "pit|stop") t ∧
      t.basis.names = (start true []).basis.names ++ ["lap"]) ∧
    ∃ t, ([UnitRef.unit Catalog.meter, .name "second"].forM (registerRef 0)).run
        (play [.create "lab"] (start true [])) = .error (.notAUnit .registration "str") t ∧
      (t.registryAt 0).isRegistered Catalog.meter = true := by
  have hsound := Basis.sound_standard
  refine ⟨hsound, ?_, ?_⟩
  · obtain ⟨hrun, hnames, -⟩ := ((bulk_stops_at_first (s := start true []) hsound).1
      [("lap", 1), ("pit|stop", -1)] (by decide)).2 [("lap", 1)] "pit|stop" (-1) [] rfl
      (by decide) (by decide)
    exact ⟨_, hrun, hnames⟩
  · obtain ⟨hrun, ⟨meters, ht⟩, -⟩ :=
      ((bulk_stops_at_first (s := play [.create "lab"] (start true [])) hsound).2 0 _ rfl
        [.unit Catalog.meter, .name "second"]).2 [Catalog.meter] (.name "second") "str" [] rfl rfl
    refine ⟨_, hrun, ?_⟩
    rw [ht]
    exact Registry.isRegistered_registerEach (.empty "lab") List.mem_cons_self

/-- So a mapping that is refused may have interned names, and units may have been registered where
one of the elements is not a unit. -/
theorem not_forall_bulk_unchanged :
    (¬ ∀ (enabled : Bool) (env : Environment) (m : List (String × Int)) (name : String)
      (t : Session), (dimensionOf m).run (start enabled env) = .error (.pipeInName name) t →
      t.basis.names = (start enabled env).basis.names) ∧
    ¬ ∀ (enabled : Bool) (env : Environment) (ops : List Operation) (id : Nat)
      (us : List UnitRef) (kind : String) (t : Session),
      (us.forM (registerRef id)).run (play ops (start enabled env)) =
        .error (.notAUnit .registration kind) t →
      (t.registryAt id).units = ((play ops (start enabled env)).registryAt id).units := by
  constructor
  · intro hall
    have hnames := hall true [] [("lap", 1), ("pit|stop", -1)] "pit|stop" _ rfl
    exact absurd hnames (by decide)
  · intro hall
    have hunits := hall true [] [.create "lab"] 0 [.unit Catalog.meter, .name "second"] "str" _ rfl
    exact absurd (congrArg List.length hunits) (by decide)

end Session

end Metrology
