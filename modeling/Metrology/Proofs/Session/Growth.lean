import Metrology.Proofs.Registry.Tables
import Metrology.Proofs.Session.Calls
import Metrology.Session.Quantity

/-!
# How registries grow

`Session.Advances added s t` says that `t` is `s` after some registrations: every registry of `s` is
still there under its number, its units are those of before with new ones behind them, and its
tables are determined by its units and by the conversion functions of before with `added` behind
them. Registries that are new in `t` have determined tables as well.

An operation that registers no conversion function with a registry of `s` advances it by none, which
makes a frame (`Frame.growth`); looking up names, reading unit expressions and converting quantities
stay within it, whatever the resolvers and the conversion functions do.
-/

namespace Metrology

open Session

/-- The registries after some registrations, of which `added` are the conversion functions. -/
structure Session.Advances (added : Nat → List Conversion) (s t : Session) : Prop where
  known : ∀ {i : Nat} {r : Registry}, s.registries[i]? = some r →
    ∃ r', t.registries[i]? = some r' ∧ r.units <+: r'.units ∧
      ∀ cs, r.Recorded cs → r'.Recorded (cs ++ added i)
  fresh : ∀ {i : Nat} {r : Registry}, s.registries[i]? = none → t.registries[i]? = some r →
    ∃ cs, r.Recorded cs

namespace Session

theorem Advances.trans {added added' : Nat → List Conversion} {s t u : Session}
    (h : Advances added s t) (h' : Advances added' t u) :
    Advances (fun i => added i ++ added' i) s u := by
  refine ⟨fun {i r} hr => ?_, fun {i r''} hs hu => ?_⟩
  · obtain ⟨r', hr', hp, hc⟩ := h.known hr
    obtain ⟨r'', hr'', hp', hc'⟩ := h'.known hr'
    refine ⟨r'', hr'', hp.trans hp', fun cs hcs => ?_⟩
    rw [← List.append_assoc]
    exact hc' _ (hc cs hcs)
  · -- a registry that is new at the end is new in one of the two parts
    cases ht : t.registries[i]? with
    | none => exact h'.fresh ht hu
    | some r' =>
      obtain ⟨cs, hcs⟩ := h.fresh hs ht
      obtain ⟨r, hr, -, hc⟩ := h'.known ht
      rw [hu] at hr
      cases hr
      exact ⟨_, hc cs hcs⟩

/-- What is added to registries that do not exist yet does not matter. -/
theorem Advances.congr {added added' : Nat → List Conversion} {s t : Session}
    (h : Advances added s t) (ha : ∀ i < s.registries.length, added i = added' i) :
    Advances added' s t := by
  refine ⟨fun {i r} hr => ?_, h.fresh⟩
  rw [← ha i (List.getElem?_eq_some_iff.1 hr).1]
  exact h.known hr

theorem advances_of_registries_eq {s t : Session} (h : t.registries = s.registries) :
    Advances (fun _ => []) s t := by
  refine ⟨fun {i r} hr => ⟨r, h ▸ hr, List.prefix_refl _, fun cs hcs => ?_⟩, fun {i r'} hs ht => ?_⟩
  · simpa using hcs
  · rw [h, hs] at ht
    cases ht

end Session

namespace Frame

/-- Units may be registered and registries may be added. -/
def growth : Frame where
  rel := Advances fun _ => []
  refl _ := advances_of_registries_eq rfl
  trans h h' := h.trans h'

theorem silent_le_growth (s t : Session) (h : silent.rel s t) : growth.rel s t :=
  advances_of_registries_eq h

end Frame

namespace Session

variable {α : Type}

/-! ## Writing to one registry -/

/-- Changing one registry advances the session when the change keeps units and tables. -/
theorem advances_set (s t : Session) (id : Nat) (f : Registry → Registry) (cs : List Conversion)
    (ht : t.registries = s.registries.set id (f (s.registryAt id)))
    (hp : ∀ r, r.units <+: (f r).units)
    (hf : ∀ r cs', r.Recorded cs' → (f r).Recorded (cs' ++ cs)) :
    Advances (fun i => if i = id then cs else []) s t := by
  refine ⟨fun {i r} hr => ?_, fun {i r'} hs hr' => ?_⟩
  · by_cases hi : i = id
    · subst hi
      have hlt := (List.getElem?_eq_some_iff.1 hr).1
      refine ⟨f r, ?_, hp r, fun cs' hcs => by simpa using hf r cs' hcs⟩
      simp [ht, hlt, registryAt_of_getElem? hr]
    · refine ⟨r, ?_, List.prefix_refl _, fun cs' hcs => by simpa [hi] using hcs⟩
      rw [ht, List.getElem?_set_ne (Ne.symm hi)]
      exact hr
  · -- writing makes no registry, so none is new
    have hlen : t.registries.length = s.registries.length := by simp [ht]
    have hi := (List.getElem?_eq_some_iff.1 hr').1
    have := List.getElem?_eq_none_iff.1 hs
    omega

/-- Registering a unit with a registry, by whether it is registered already. -/
theorem run_register (id : Nat) (m : Measure) (s : Session) :
    (register id m).run s =
      let r := s.registryAt id
      if r.isRegistered m = true then .ok () s
      else .ok () { s with
        registries := s.registries.set id (r.register m)
        meters := s.meters.showUnits r.name (r.register m).units.length } := by
  unfold register
  rw [run_bind_of_ok (run_registry id s)]
  by_cases h : (s.registryAt id).isRegistered m = true
  · rw [if_neg (by simp [h])]
    simp [h]
  · rw [if_pos (by simp [h])]
    simp [h, putRegistry, meter, Registry.name_register]

theorem growth_register (id : Nat) (m : Measure) : Frame.growth.Allows (register id m) := by
  intro s
  unfold after
  rw [run_register]
  by_cases h : (s.registryAt id).isRegistered m = true
  · simp only [h, if_true]
    exact Frame.growth.refl s
  · simp only [h]
    refine (advances_set s _ id (·.register m) [] rfl (fun r => r.units_prefix_register m)
      fun r cs hr => ?_).congr fun i _ => ?_
    · rw [List.append_nil]
      exact hr.register m
    · split <;> rfl

theorem growth_registerAll (id : Nat) (ms : List Measure) :
    Frame.growth.Allows (registerAll id ms) :=
  Frame.Allows.forM fun m _ => growth_register id m

theorem growth_registerRef (id : Nat) (u : UnitRef) : Frame.growth.Allows (registerRef id u) := by
  cases u with
  | unit m => exact growth_register id m
  | name text => exact Frame.allows_throw _
  | other kind => exact Frame.allows_throw _

/-! ## Registering conversion functions -/

/-- The conversion functions registered where all are registered with one registry. -/
def only (id : Nat) (cs : List Conversion) (i : Nat) : List Conversion :=
  if i = id then cs else []

@[simp] theorem only_nil (id : Nat) : only id [] = fun _ => [] := by
  funext i
  simp [only]

theorem only_append (id : Nat) (cs cs' : List Conversion) :
    (fun i => only id cs i ++ only id cs' i) = only id (cs ++ cs') := by
  funext i
  by_cases h : i = id <;> simp [only, h]

theorem advances_addConversion (id : Nat) (c : Conversion) (s : Session) :
    Advances (only id [c]) s (after (addConversion id c) s) :=
  advances_set s _ id (·.addConversion c) [c] rfl (fun _ => List.prefix_refl _)
    fun _ _ hr => hr.addConversion c

theorem advances_addConversions (id : Nat) (cs : List Conversion) (s : Session) :
    Advances (only id cs) s (after (cs.forM (addConversion id)) s) := by
  induction cs generalizing s with
  | nil =>
    rw [only_nil]
    exact Frame.growth.refl s
  | cons c cs ih =>
    have h := (advances_addConversion id c s).trans (ih (after (addConversion id c) s))
    rw [only_append] at h
    exact h

theorem total_register (id : Nat) (m : Measure) : Total (register id m) := by
  intro s
  unfold after
  rw [run_register]
  dsimp only
  split <;> exact ⟨(), rfl⟩

theorem growth_registerCatalog (id : Nat) (c : Catalog) :
    Frame.growth.Allows (registerCatalog id c) :=
  growth_registerAll id c.units

theorem total_registerCatalogs (id : Nat) (cs : List Catalog) :
    Total (cs.forM (registerCatalog id)) := by
  refine Total.forM (fun c => ?_) cs
  exact Total.forM (total_register id) c.units

/-- The standard units come with the conversion functions between the temperature scales. -/
theorem advances_registerStandard (id : Nat) (s : Session) :
    Advances (only id Catalog.temperatureConversions) s (after (registerStandard id) s) := by
  have hcatalogs : Frame.growth.Allows (Catalog.all.forM (registerCatalog id)) :=
    Frame.Allows.forM fun c _ => growth_registerCatalog id c
  have hunits := hcatalogs s
  have h := hunits.trans
    (advances_addConversions id Catalog.temperatureConversions
      (after (Catalog.all.forM (registerCatalog id)) s))
  simp only [List.nil_append] at h
  unfold registerStandard
  rw [(total_registerCatalogs id Catalog.all).after_bind]
  exact h

end Session

/-- Units and conversion functions may be registered with one registry. -/
def Frame.writing (id : Nat) : Frame where
  rel s t := ∃ cs, Advances (only id cs) s t
  refl s := ⟨[], by rw [only_nil]; exact Frame.growth.refl s⟩
  trans := by
    rintro s t u ⟨cs, h⟩ ⟨cs', h'⟩
    refine ⟨cs ++ cs', ?_⟩
    rw [← only_append]
    exact h.trans h'

theorem Frame.silent_le_writing (id : Nat) (s t : Session) (h : Frame.silent.rel s t) :
    (Frame.writing id).rel s t :=
  ⟨[], by rw [only_nil]; exact advances_of_registries_eq h⟩

namespace Session

/-! ## The standing registry -/

/-- A new registry is empty and stands behind the others. -/
theorem run_newRegistry (name : String) (s : Session) :
    (newRegistry name).run s =
      .ok s.registries.length { s with registries := s.registries ++ [.empty name] } := rfl

theorem growth_newRegistry (name : String) : Frame.growth.Allows (newRegistry name) := by
  intro s
  rw [after_of_ok (run_newRegistry name s)]
  refine ⟨fun {i r} hr => ⟨r, ?_, List.prefix_refl _, fun cs hcs => by simpa using hcs⟩,
    fun {i r} hs hr => ?_⟩
  · rw [List.getElem?_append_left (List.getElem?_eq_some_iff.1 hr).1]
    exact hr
  · have hi := (List.getElem?_eq_some_iff.1 hr).1
    have hn := List.getElem?_eq_none_iff.1 hs
    simp only [List.length_append, List.length_singleton] at hi
    obtain rfl : i = s.registries.length := by omega
    rw [List.getElem?_concat_length, Option.some.injEq] at hr
    exact ⟨[], hr ▸ Registry.recorded_empty name⟩

/-- Writing to a registry that did not exist changes none of those that did. -/
theorem growth_of_writing {s t u : Session} (h : Frame.growth.rel s t) {id : Nat}
    (hid : s.registries.length ≤ id) (hw : (Frame.writing id).rel t u) : Frame.growth.rel s u := by
  obtain ⟨cs, hcs⟩ := hw
  refine (h.trans hcs).congr fun i hi => ?_
  have : i ≠ id := by omega
  simp [only, this]

theorem run_standingRegistry_of_some {s : Session} {id : Nat} (h : s.standing = some id) :
    standingRegistry.run s = .ok id s := by
  simp [standingRegistry, h]

theorem run_standingRegistry_of_none {s : Session} (h : s.standing = none) :
    standingRegistry.run s =
      (furnish s.registries.length).run (after (newRegistry "default") s) := by
  have hget : (get : SessionM Session).run s = .ok s s := rfl
  rw [standingRegistry, run_bind_of_ok hget, h]
  exact run_bind_of_ok (run_newRegistry "default" s) _

theorem writing_furnish (id : Nat) : (Frame.writing id).Allows (furnish id) :=
  (Frame.writing id).conduct.holds_furnish
    (Frame.silent_currentSettings.mono (Frame.silent_le_writing id))
    (fun s => ⟨_, advances_registerStandard id s⟩) fun s => Frame.silent_le_writing id s _ rfl

/-- Setting up the standing registry changes no other registry. -/
theorem growth_standingRegistry : Frame.growth.Allows standingRegistry := by
  intro s
  cases hs : s.standing with
  | some id =>
    rw [after_of_ok (run_standingRegistry_of_some hs)]
    exact Frame.growth.refl s
  | none =>
    have hrun : after standingRegistry s =
        after (furnish s.registries.length) (after (newRegistry "default") s) := by
      unfold after
      rw [run_standingRegistry_of_none hs]
      rfl
    rw [hrun]
    exact growth_of_writing (growth_newRegistry "default" s) (Nat.le_refl _) (writing_furnish _ _)

theorem growth_of_silent {x : SessionM α} (h : Frame.silent.Allows x) : Frame.growth.Allows x :=
  h.mono Frame.silent_le_growth

theorem growth_registryOr (id : Option Nat) : Frame.growth.Allows (registryOr id) :=
  Frame.growth.conduct.holds_registryOr growth_standingRegistry id

/-! ## Looking units up -/

/-- Asking resolvers registers nothing. -/
theorem silent_consultAll (name : String) (rs : List Resolver) :
    Frame.silent.Allows (consultAll name rs) :=
  Frame.silent.conduct.holds_consultAll
    (fun _ _ => Frame.silent.conduct.holds_consult (Frame.silent_note _) Frame.silent_issue) name rs

theorem growth_tryName (id : Nat) (name : String) : Frame.growth.Allows (tryName id name) :=
  Frame.growth.conduct.holds_tryName (Frame.growth.allows_registry id)
    (fun name rs => growth_of_silent (silent_consultAll name rs))
    (growth_register id) (fun _ => growth_of_silent (Frame.silent_count _)) name

theorem silent_trySymbol (id : Nat) (symbol : String) : Frame.silent.Allows (trySymbol id symbol) :=
  Frame.silent.conduct.holds_trySymbol (Frame.silent.allows_registry id)
    (fun _ => Frame.silent_count _) symbol

theorem growth_unitNamed (id : Nat) (name : String) : Frame.growth.Allows (unitNamed id name) :=
  Frame.growth.conduct.holds_unitNamed (growth_tryName id name)

theorem silent_unitWithSymbol (id : Nat) (symbol : String) :
    Frame.silent.Allows (unitWithSymbol id symbol) :=
  Frame.silent.conduct.holds_unitWithSymbol (silent_trySymbol id symbol)

theorem growth_resolveRef (id : Option Nat) (u : UnitRef) :
    Frame.growth.Allows (resolveRef id u) :=
  Frame.growth.conduct.holds_resolveRef growth_registryOr growth_tryName id u

/-! ## Reading unit expressions -/

/-- Reading a unit expression registers what resolvers answer, and nothing else. -/
theorem growth_parseUnit (id : Option Nat) (text : String) :
    Frame.growth.Allows (parseUnit id text) :=
  Frame.growth.conduct.holds_parseUnit
    (Frame.growth.conduct.holds_evaluate growth_tryName
      (fun id symbol => growth_of_silent (silent_trySymbol id symbol)) (growth_registryOr id) text)
    (fun _ => growth_of_silent (Frame.silent_count _))
    (fun u => growth_of_silent (Frame.silent_realize u))

/-! ## Converting quantities -/

/-- A conversion stays within a frame when the functions that it calls do; where a session leads
everywhere, nothing is asked of its functions. -/
theorem allows_convert {F : Frame} (id : Nat) (hF : ∀ s t, Frame.silent.rel s t → F.rel s t)
    (hrun : ∀ s, (∀ t, F.rel s t) ∨ ∀ c ∈ (s.registryAt id).conversions.values, ∀ convert,
      (∀ q target, F.Allows (convert q target)) → ∀ q, F.Allows (run convert (c.apply q)))
    (q : Quantity) (target : Measure) : F.Allows (convert id q target) :=
  F.conduct.holds_convert F.allows_currentFacilities (F.allows_registry id)
    (fun value unit => (Frame.silent_quantity value unit).mono hF)
    (fun _ _ _ => (Frame.silent_note _).mono hF) (fun _ => (Frame.silent_count _).mono hF)
    (fun s => (hrun s).imp_left fun hall _ x => hall (after x s)) q target

/-- Converting a quantity registers what resolvers answer to the functions that it calls, and
nothing else. -/
theorem growth_convert (id : Nat) (q : Quantity) (target : Measure) :
    Frame.growth.Allows (convert id q target) :=
  allows_convert id Frame.silent_le_growth (fun _ => .inr fun _ _ _ hc _ =>
    Frame.growth.conduct.holds_run
      (fun _ _ => growth_of_silent (Frame.silent_quantity _ _)) (growth_resolveRef none) hc _)
    q target

end Session

end Metrology
