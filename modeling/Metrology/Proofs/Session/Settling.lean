import Metrology.Proofs.Registry.Standard
import Metrology.Proofs.Session.Use

/-!
# What uses see, and what they leave behind

A use reads the environment at most once, and only where there are no settings yet; it makes the
standing registry at most once, and only where none stands in (`Uses`). It sees the settings in
force and nothing else of how they came about (`run_informed`). A use that leaves a session without
settings has not used any: it does the same whatever the settings are. Likewise for the standing
registry.
-/

namespace Metrology

open Session

namespace Session

/-- The warnings, in the order in which they were given. -/
def warnings (s : Session) : List String :=
  s.journal.toList.filterMap Note.warning?

/-- What a use may have done. -/
structure Uses (s t : Session) : Prop where
  environment : t.environment = s.environment
  /-- The settings were read from the environment, once, if there were none. -/
  settings : t.settings = s.settings ∧ t.warnings = s.warnings ∨
    s.settings = none ∧ t.settings = some (Settings.ofEnvironment s.environment).1 ∧
      t.warnings = s.warnings ++ (Settings.ofEnvironment s.environment).2
  /-- A new registry was made by the settings in force and stands in, if there was none. -/
  standing : t.standing = s.standing ∨ s.standing = none ∧ ∃ id, s.registries.length ≤ id ∧
    t.standing = some id ∧ t.registries[id]? = some (Registry.founded s.settled)
  /-- A registry changes by the answers of its resolvers only. -/
  kept : ∀ (id : Nat) (r : Registry), s.registries[id]? = some r → r.resolvers = [] →
    t.registries[id]? = some r
  length_le : s.registries.length ≤ t.registries.length

variable {s t u : Session}

/-- Using a session leaves the settings in force. -/
theorem Uses.settled_eq (h : Uses s t) : t.settled = s.settled := by
  rw [settled, settled, h.environment]
  obtain ⟨hsettings, -⟩ | ⟨hnone, hsettings, -⟩ := h.settings
  · rw [hsettings]
  · rw [hsettings, hnone]
    rfl

/-- Settings that are there stay. -/
theorem Uses.settings_of_some {settings : Settings} (h : Uses s t)
    (hs : s.settings = some settings) : t.settings = some settings := by
  obtain ⟨hkept, -⟩ | ⟨hnone, -⟩ := h.settings
  · exact hkept.trans hs
  · rw [hs] at hnone
    cases hnone

/-- A registry that stands in does so still. -/
theorem Uses.standing_of_some {id : Nat} (h : Uses s t) (hs : s.standing = some id) :
    t.standing = some id := by
  obtain hkept | ⟨hnone, -⟩ := h.standing
  · exact hkept.trans hs
  · rw [hs] at hnone
    cases hnone

/-- What changes neither the settings, the environment, the warnings nor the registries. -/
theorem uses_of_eq (henvironment : t.environment = s.environment)
    (hsettings : t.settings = s.settings) (hwarnings : t.warnings = s.warnings)
    (hstanding : t.standing = s.standing) (hregistries : t.registries = s.registries) :
    Uses s t where
  environment := henvironment
  settings := .inl ⟨hsettings, hwarnings⟩
  standing := .inl hstanding
  kept id r hr _ := hregistries ▸ hr
  length_le := by rw [hregistries]

/-- Using a session twice is using it. -/
theorem Uses.trans (h : Uses s t) (h' : Uses t u) : Uses s u := by
  refine ⟨h'.environment.trans h.environment, ?_, ?_, fun id r hr hresolvers =>
    h'.kept id r (h.kept id r hr hresolvers) hresolvers, h.length_le.trans h'.length_le⟩
  · have hsecond := h'.settings
    rw [h.environment] at hsecond
    obtain ⟨hsettings, hwarnings⟩ | ⟨hnone, hsettings, hwarnings⟩ := h.settings
    · rwa [hsettings, hwarnings] at hsecond
    · -- the first part has read the settings, so the second does not
      obtain ⟨hsettings', hwarnings'⟩ | ⟨hnone', -⟩ := hsecond
      · exact .inr ⟨hnone, hsettings'.trans hsettings, hwarnings'.trans hwarnings⟩
      · rw [hsettings] at hnone'
        cases hnone'
  · obtain hstanding | ⟨hnone, id, hid, hstanding, hregistry⟩ := h.standing
    · obtain hstanding' | ⟨hnone', id, hid, hstanding', hregistry⟩ := h'.standing
      · exact .inl (hstanding'.trans hstanding)
      · rw [h.settled_eq] at hregistry
        exact .inr ⟨hstanding ▸ hnone', id, h.length_le.trans hid, hstanding', hregistry⟩
    · obtain hstanding' | ⟨hnone', -⟩ := h'.standing
      · exact .inr ⟨hnone, id, hid, hstanding'.trans hstanding,
          h'.kept id _ hregistry (Registry.stocked_founded _).resolvers⟩
      · rw [hstanding] at hnone'
        cases hnone'

end Session

/-- What a use may do. -/
def Frame.using : Frame where
  rel := Uses
  refl _ := uses_of_eq rfl rfl rfl rfl rfl
  trans := Uses.trans

namespace Session

variable {s : Session}

theorem warnings_settle (s : Session) : s.settle.warnings = match s.settings with
    | some _ => s.warnings
    | none => s.warnings ++ (Settings.ofEnvironment s.environment).2 := by
  have hwarned : ∀ ws : List String, (ws.map Note.warned).filterMap Note.warning? = ws := by
    intro ws
    rw [List.filterMap_map]
    exact List.filterMap_some
  cases hs : s.settings with
  | some settings => simp [settle, hs]
  | none => simp [settle, hs, warnings, hwarned]

theorem standing_settle (s : Session) : s.settle.standing = s.standing := by
  unfold settle
  split <;> rfl

/-- Settling is a use. -/
theorem uses_settle (s : Session) : Uses s s.settle := by
  have hwarnings := warnings_settle s
  have hregistries := registries_settle s
  cases hs : s.settings with
  | some settings =>
    have heq : s.settle = s := by simp only [settle, hs]
    rw [heq]
    exact Frame.using.refl s
  | none =>
    rw [hs] at hwarnings
    refine ⟨?_, .inr ⟨hs, ?_, hwarnings⟩, .inl ?_, fun id r hr _ => hregistries ▸ hr,
      hregistries ▸ Nat.le_refl _⟩
    all_goals simp only [settle, hs]

/-- Asking for the standing registry is a use, whether it is there or has to be made. -/
theorem uses_standingRegistry : Frame.using.Allows standingRegistry := by
  intro s
  cases hs : s.standing with
  | some id =>
    rw [after_of_ok (run_standingRegistry_of_some hs)]
    exact Frame.using.refl s
  | none =>
    obtain ⟨m, hm⟩ := exists_run_standingRegistry hs
    rw [after_of_ok hm]
    have hsettle := uses_settle s
    refine ⟨hsettle.environment, hsettle.settings, .inr ⟨hs, s.registries.length, Nat.le_refl _,
      rfl, List.getElem?_concat_length⟩, fun id r hr _ => ?_, ?_⟩
    · exact (List.getElem?_append_left (List.getElem?_eq_some_iff.1 hr).1).trans hr
    · simp only [List.length_append]
      omega

theorem uses_note {n : Note} (hn : n.warning? = none) : Frame.using.Allows (note n) := by
  intro s
  have hwarnings : (after (note n) s).warnings = s.warnings := by
    show (s.journal.push n).toList.filterMap Note.warning? = _
    simp [hn, warnings]
  exact uses_of_eq rfl rfl hwarnings rfl rfl

theorem uses_consultAll (name : String) (rs : List Resolver) :
    Frame.using.Allows (consultAll name rs) := by
  have hserial : Frame.using.Allows newSerial := fun _ => uses_of_eq rfl rfl rfl rfl rfl
  exact Frame.using.conduct.holds_consultAll (fun _ _ => Frame.using.conduct.holds_consult
    (uses_note rfl) (Frame.using.conduct.holds_issue hserial)) name rs

theorem uses_register {id : Nat} (h : (s.registryAt id).resolvers ≠ []) (m : Measure) :
    Uses s (after (register id m) s) := by
  by_cases hm : (s.registryAt id).isRegistered m = true
  · rw [after_of_ok ((run_register id m s).trans (if_pos hm))]
    exact Frame.using.refl s
  · rw [after_of_ok ((run_register id m s).trans (if_neg hm))]
    refine ⟨rfl, .inl ⟨rfl, rfl⟩, .inl rfl, fun i r hr hresolvers => ?_, by simp⟩
    have hi : id ≠ i := fun hi => h (registryAt_of_getElem? (hi ▸ hr) ▸ hresolvers)
    exact (List.getElem?_set_ne hi).trans hr

/-- Looking a name up changes a registry only by what a resolver of it answers. -/
theorem uses_tryName (id : Nat) (name : String) : Frame.using.Allows (tryName id name) := by
  intro s
  have hcount : ∀ e, Frame.using.Allows (count e) := fun _ _ => uses_of_eq rfl rfl rfl rfl rfl
  have hrest : ∀ o (answer : Option Measure), Frame.using.Allows (do
      count (.nameLookup o)
      pure answer) := fun _ _ => (hcount _).bind fun _ => Frame.allows_pure _
  unfold tryName
  rw [after_bind_of_ok (run_registry id s)]
  split
  · exact hrest _ _ s
  · refine Frame.using.conduct.at_bind (uses_consultAll name _ s) fun answer t ht => ?_
    cases answer with
    | none => exact hrest _ _ t
    | some m =>
      -- there was an answer, so the registry has resolvers and may change
      have hresolvers : (t.registryAt id).resolvers ≠ [] := by
        have hsilent := silent_consultAll name (s.registryAt id).resolvers s
        rw [after_of_ok ht] at hsilent
        rw [registryAt_congr hsilent]
        intro hnone
        rw [hnone] at ht
        cases ht
      exact Frame.using.conduct.at_bind (uses_register hresolvers m) fun _ u _ => hrest _ _ u

/-- Uses do what they may. -/
theorem grounded_using : Frame.using.conduct.Grounded where
  count _ _ := uses_of_eq rfl rfl rfl rfl rfl
  newSerial _ := uses_of_eq rfl rfl rfl rfl rfl
  note _ hn := uses_note hn
  constant f _ s := Frame.using.refl s
  registry := Frame.using.allows_registry
  tryName := uses_tryName
  settings s := by
    have hsettle := uses_settle s
    rwa [← after_of_ok (run_currentSettings s)] at hsettle
  standing := uses_standingRegistry

end Session

/-! ## What uses do not see -/

/-- The result, with the session that it leaves changed. -/
def Session.carried {α : Type} (g : Session → Session) :
    EStateM.Result Fault Session α → EStateM.Result Fault Session α
  | .ok a s => .ok a (g s)
  | .error f s => .error f (g s)

/-- In vacant sessions that the operation leaves vacant, it does not see the change: it does the
same in the changed session, and leaves the session that it would have left, changed. No other
session becomes vacant. -/
def Conduct.unaware (vacant : Session → Prop) (change : Session → Session) : Conduct where
  At x s := (vacant (after x s) → vacant s) ∧
    (vacant (after x s) → x.run (change s) = carried change (x.run s))
  at_pure _ _ := ⟨id, fun _ => rfl⟩
  at_throw _ _ := ⟨id, fun _ => rfl⟩
  at_bind := by
    intro α β x f s hx hf
    cases hr : x.run s with
    | ok a t =>
      obtain ⟨hvacant, hrun⟩ := hf a t hr
      rw [after_of_ok hr, hr] at hx
      rw [after_bind_of_ok hr, run_bind_of_ok hr]
      exact ⟨fun h => hx.1 (hvacant h), fun h =>
        (run_bind_of_ok (hx.2 (hvacant h)) f).trans (hrun h)⟩
    | error e t =>
      rw [after_of_error hr, hr] at hx
      rw [after_of_error (run_bind_of_error hr f), run_bind_of_error hr f]
      exact ⟨hx.1, fun h => run_bind_of_error (hx.2 h) f⟩
  at_tryCatch := by
    intro α x h s hx hh
    cases hr : x.run s with
    | ok a t =>
      rw [after_of_ok hr, hr] at hx
      rw [after_of_ok (run_tryCatch_of_ok hr h), run_tryCatch_of_ok hr h]
      exact ⟨hx.1, fun hv => run_tryCatch_of_ok (hx.2 hv) h⟩
    | error e t =>
      obtain ⟨hvacant, hrun⟩ := hh e t hr
      rw [after_of_error hr, hr] at hx
      rw [after_congr (run_tryCatch_of_error hr h), run_tryCatch_of_error hr h]
      exact ⟨fun hv => hx.1 (hvacant hv), fun hv =>
        (run_tryCatch_of_error (hx.2 (hvacant hv)) h).trans (hrun hv)⟩

/-- The operations that neither ask for the settings nor for the standing registry have the
property. -/
structure Conduct.Plain (C : Conduct) : Prop where
  meter : ∀ f, C.Holds (Session.meter f)
  newSerial : C.Holds Session.newSerial
  note : ∀ n : Note, n.warning? = none → C.Holds (Session.note n)
  constant : ∀ {α : Type} (f : Session → α),
    (∀ s t, s.facilities = t.facilities → s.basis = t.basis → f s = f t) →
      C.Holds (do return f (← get))
  registry : ∀ id, C.Holds (Session.registry id)
  putRegistry : ∀ id r, C.Holds (Session.putRegistry id r)

namespace Conduct.Plain

variable {C : Conduct} (h : C.Plain)
include h

theorem holds_register (id : Nat) (m : Measure) : C.Holds (register id m) := by
  refine (h.registry id).bind fun r => ?_
  dsimp only
  split
  · exact (h.putRegistry id _).bind fun _ => h.meter _
  · exact holds_pure ()

theorem holds_registerStandard (id : Nat) : C.Holds (registerStandard id) :=
  C.holds_registerStandard (h.holds_register id) fun _ => (h.registry id).bind fun _ =>
    (h.putRegistry id _).bind fun _ => h.meter _

theorem grounded (hsettings : C.Holds currentSettings) (hstanding : C.Holds standingRegistry) :
    C.Grounded where
  count _ := h.meter _
  newSerial := h.newSerial
  note := h.note
  constant := h.constant
  registry := h.registry
  tryName id := C.holds_tryName (h.registry id)
    (C.holds_consultAll fun _ _ => C.holds_consult (h.note _ rfl) (C.holds_issue h.newSerial))
    (h.holds_register id) fun _ => h.meter _
  settings := hsettings
  standing := hstanding

/-- The standing registry is made by plain operations where the settings are known. -/
theorem grounded_of_settings (hsettings : C.Holds currentSettings)
    (hread : C.Holds (do return (← get).standing)) (hnew : C.Holds (newRegistry "default"))
    (huse : ∀ id, C.Holds (useRegistry id)) : C.Grounded :=
  h.grounded hsettings <| C.holds_standingRegistry hread hnew fun id =>
    C.holds_furnish hsettings (h.holds_registerStandard id) (huse id)

end Conduct.Plain

namespace Session

variable {α : Type} {s : Session}

/-! ### How the settings came about -/

/-- The session as it would be, had the settings in force been given and the environment been
silent. -/
def informed (s : Session) : Session :=
  { s with
    settings := some s.settled
    environment := []
    journal := s.journal.filter fun n => n.warning?.isNone }

theorem informed_settle (s : Session) : s.settle.informed = s.informed := by
  have hwarned : ∀ ws : List String,
      (ws.map Note.warned).filter (fun n => n.warning?.isNone) = [] := by
    simp [Note.warning?]
  have hsettled := settled_settle s
  unfold informed
  rw [hsettled]
  cases hs : s.settings with
  | some settings => simp [settle, hs]
  | none => simp [settle, hs, hwarned]

theorem plain_informed : (Conduct.unaware (fun _ => True) informed).Plain where
  meter _ _ := ⟨id, fun _ => rfl⟩
  newSerial _ := ⟨id, fun _ => rfl⟩
  note n hn s := by
    have hpush : (s.journal.push n).filter (fun n => n.warning?.isNone) =
        (s.journal.filter fun n => n.warning?.isNone).push n := by simp [hn]
    refine ⟨id, fun _ => ?_⟩
    show EStateM.Result.ok () { s.informed with journal := s.informed.journal.push n } =
      .ok () { s.informed with journal := (s.journal.push n).filter fun n => n.warning?.isNone }
    rw [hpush]
    rfl
  constant f hf s := ⟨id, fun _ => congrArg (EStateM.Result.ok · s.informed) (hf _ _ rfl rfl)⟩
  registry _ _ := ⟨id, fun _ => rfl⟩
  putRegistry _ _ _ := ⟨id, fun _ => rfl⟩

theorem grounded_informed : (Conduct.unaware (fun _ => True) informed).Grounded := by
  refine plain_informed.grounded_of_settings (fun s => ⟨id, fun _ => ?_⟩)
    (fun _ => ⟨id, fun _ => rfl⟩) (fun _ => ⟨id, fun _ => rfl⟩) fun _ _ => ⟨id, fun _ => rfl⟩
  have hinformed : s.informed.settle = s.informed := rfl
  rw [run_currentSettings, run_currentSettings, hinformed, carried, informed_settle]
  rfl

/-- A use does what it would do, had the settings in force been given and the environment been
silent. -/
theorem run_informed (u : Use α) (s : Session) :
    u.perform.run s.informed = carried informed (u.perform.run s) :=
  (grounded_informed.holds_perform u s).2 trivial

/-! ### Settings that are not used -/

theorem plain_settings (settings : Settings) :
    (Conduct.unaware (fun s => s.settings = none) (after (useSettings settings))).Plain where
  meter _ _ := ⟨id, fun _ => rfl⟩
  newSerial _ := ⟨id, fun _ => rfl⟩
  note _ _ _ := ⟨id, fun _ => rfl⟩
  constant _ hf _ := ⟨id, fun _ => congrArg (EStateM.Result.ok · _) (hf _ _ rfl rfl)⟩
  registry _ _ := ⟨id, fun _ => rfl⟩
  putRegistry _ _ _ := ⟨id, fun _ => rfl⟩

/-- After settling, the settings in force are stored. -/
theorem settings_settle (s : Session) : s.settle.settings = some s.settled := by
  unfold settle settled
  cases hs : s.settings with
  | some settings => exact hs
  | none => rfl

theorem grounded_settings (settings : Settings) :
    (Conduct.unaware (fun s => s.settings = none) (after (useSettings settings))).Grounded := by
  refine (plain_settings settings).grounded_of_settings (fun s => ?_) (fun _ => ⟨id, fun _ => rfl⟩)
    (fun _ => ⟨id, fun _ => rfl⟩) fun _ _ => ⟨id, fun _ => rfl⟩
  -- no session is without settings after they were asked for
  have hsome : ¬ (after currentSettings s).settings = none := by
    rw [after_of_ok (run_currentSettings s), settings_settle]
    exact nofun
  exact ⟨fun h => absurd h hsome, fun h => absurd h hsome⟩

/-- A use that leaves the session without settings does the same whatever they are. -/
theorem run_of_settings_eq_none (u : Use α) (s : Session)
    (h : (after u.perform s).settings = none) (settings : Settings) :
    u.perform.run (after (useSettings settings) s) =
      carried (after (useSettings settings)) (u.perform.run s) :=
  ((grounded_settings settings).holds_perform u s).2 h

/-! ### A standing registry that is not used -/

theorem plain_standing (id : Nat) :
    (Conduct.unaware (fun s => s.standing = none) (after (useRegistry id))).Plain where
  meter _ _ := ⟨fun h => h, fun _ => rfl⟩
  newSerial _ := ⟨fun h => h, fun _ => rfl⟩
  note _ _ _ := ⟨fun h => h, fun _ => rfl⟩
  constant _ hf _ :=
    ⟨fun h => h, fun _ => congrArg (EStateM.Result.ok · _) (hf _ _ rfl rfl)⟩
  registry _ _ := ⟨fun h => h, fun _ => rfl⟩
  putRegistry _ _ _ := ⟨fun h => h, fun _ => rfl⟩

theorem grounded_standing (id : Nat) :
    (Conduct.unaware (fun s => s.standing = none) (after (useRegistry id))).Grounded := by
  refine (plain_standing id).grounded (fun s => ?_) fun s => ?_
  · have hsettle : (after (useRegistry id) s).settle = after (useRegistry id) s.settle := by
      show (match s.settings with | some _ => _ | none => _) = after (useRegistry id) (settle s)
      unfold settle
      cases s.settings <;> rfl
    refine ⟨fun h => ?_, fun _ => ?_⟩
    · rw [after_of_ok (run_currentSettings s)] at h
      exact (standing_settle s).symm.trans h
    · rw [run_currentSettings, run_currentSettings, hsettle]
      rfl
  · -- no session is without a standing registry after it was asked for
    have hsome : ¬ (after standingRegistry s).standing = none := by
      cases hs : s.standing with
      | some id =>
        rw [after_of_ok (run_standingRegistry_of_some hs), hs]
        exact nofun
      | none =>
        obtain ⟨m, hm⟩ := exists_run_standingRegistry hs
        rw [after_of_ok hm]
        exact nofun
    exact ⟨fun h => absurd h hsome, fun h => absurd h hsome⟩

/-- A use that leaves the session without a standing registry does the same whichever it is. -/
theorem run_of_standing_eq_none (u : Use α) (s : Session)
    (h : (after u.perform s).standing = none) (id : Nat) :
    u.perform.run (after (useRegistry id) s) = carried (after (useRegistry id)) (u.perform.run s) :=
  ((grounded_standing id).holds_perform u s).2 h

end Session

end Metrology
