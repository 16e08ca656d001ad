import Metrology.Proofs.Session.Naming
import Metrology.Session.Standard

/-!
# The settings and the standing registry over time

A history is a list of acts: the environment changes, settings or a standing registry are given or
forgotten, and uses happen in between, with anything else that a program does. At any time the
settings in force are those given last, unless they were forgotten since; else they are those of the
environment at the first use of settings since they were forgotten (`SettingsHistory`). The standing
registry is one registry from its first use on, and what it begins with is decided by the settings
in force at that use (`StandingHistory`).
-/

namespace Metrology

open Session

/-- Something that happens to a session. -/
inductive Act where
  | environment (env : Environment)
  | useSettings (settings : Settings)
  | resetSettings
  | useRegistry (id : Nat)
  | resetRegistry
  | use {α : Type} (u : Use α)
  /-- Whatever else a program does, with registries that it names for instance. -/
  | elsewhere (f : Session → Session)
      (apart : ∀ s, (f s).environment = s.environment ∧ (f s).settings = s.settings ∧
        (f s).standing = s.standing ∧ (f s).warnings = s.warnings)

namespace Act

/-- Perform an act. -/
def perform : Act → SessionM Unit
  | environment env => useEnvironment env
  | useSettings settings => Session.useSettings settings
  | resetSettings => Session.resetSettings
  | useRegistry id => Session.useRegistry id
  | resetRegistry => Session.resetRegistry
  | use u => discard u.perform
  | elsewhere f _ => modify f

/-- Whether settings are given or forgotten. -/
def settles : Act → Bool
  | useSettings _ => true
  | resetSettings => true
  | _ => false

/-- Whether a standing registry is given or forgotten. -/
def appoints : Act → Bool
  | useRegistry _ => true
  | resetRegistry => true
  | _ => false

/-- Whether the act is a use. -/
def isUse : Act → Bool
  | use _ => true
  | _ => false

/-- Whether the act may be about registries that are named. -/
def isElsewhere : Act → Bool
  | elsewhere .. => true
  | _ => false

/-- The environment after an act. -/
def environmentAfter (env : Environment) : Act → Environment
  | environment env' => env'
  | _ => env

/-- Whether the act is a use that reads the environment. -/
def reads (s : Session) : Act → Bool
  | use u => s.settings.isNone && (after u.perform s).settings.isSome
  | _ => false

end Act

/-- The warnings about an environment: one, if its equality precision is no whole number. -/
def Settings.complaints (env : Environment) : List String :=
  match env.lookup precisionVariable with
  | none => []
  | some word => if (Text.whole? word.toList).isNone then [precisionWarning word] else []

theorem Settings.ofEnvironment_complaints (env : Environment) :
    (ofEnvironment env).2 = complaints env := by
  unfold ofEnvironment complaints
  cases env.lookup precisionVariable with
  | none => rfl
  | some word => cases h : Text.whole? word.toList <;> simp [h]

/-- Where there is a warning, the equality precision is eight. -/
theorem Settings.equalityPrecision_of_complaints {env : Environment} (h : complaints env ≠ []) :
    (ofEnvironment env).1.equalityPrecision = 8 := by
  unfold complaints at h
  unfold ofEnvironment
  cases hword : env.lookup precisionVariable with
  | none => rfl
  | some word =>
    cases hwhole : Text.whole? word.toList with
    | none => simp [hwhole]
    | some n => simp [hword, hwhole] at h

namespace Session

/-- The session after a history. -/
def live (acts : List Act) (s : Session) : Session :=
  acts.foldl (fun s a => after a.perform s) s

/-- The environment after a history. -/
def environmentAfter (env : Environment) (acts : List Act) : Environment :=
  acts.foldl Act.environmentAfter env

/-- The environments that settings are read from in a history, in order. -/
def readings : List Act → Session → List Environment
  | [], _ => []
  | a :: acts, s => (if a.reads s then [s.environment] else []) ++ readings acts (after a.perform s)

variable {α β : Type} {acts : List Act} {a : Act} {s : Session}

theorem live_append (acts more : List Act) (s : Session) :
    live (acts ++ more) s = live more (live acts s) :=
  List.foldl_append

theorem uses_perform (u : Use α) (s : Session) : Uses s (after u.perform s) :=
  grounded_using.holds_perform u s

/-! ## Acts one by one -/

theorem environment_perform (a : Act) (s : Session) :
    (after a.perform s).environment = a.environmentAfter s.environment := by
  cases a with
  | use u =>
    rw [Act.perform, after_discard]
    exact (uses_perform u s).environment
  | elsewhere f apart => exact (apart s).1
  | _ => rfl

theorem settings_perform_of_not_isUse (hsettles : a.settles = false) (huse : a.isUse = false) :
    (after a.perform s).settings = s.settings := by
  cases a with
  | useSettings settings => cases hsettles
  | resetSettings => cases hsettles
  | use u => cases huse
  | elsewhere f apart => exact (apart s).2.1
  | _ => rfl

theorem settings_perform_of_some {settings : Settings} (hsettles : a.settles = false)
    (hs : s.settings = some settings) : (after a.perform s).settings = some settings := by
  cases a with
  | use u =>
    rw [Act.perform, after_discard]
    exact (uses_perform u s).settings_of_some hs
  | _ => rw [settings_perform_of_not_isUse hsettles rfl, hs]

/-- A use that finds no settings reads those of the environment, if it uses any. -/
theorem settings_perform_use (u : Use α) {settings : Settings} (hs : s.settings = none)
    (h : (after (Act.use u).perform s).settings = some settings) :
    settings = (Settings.ofEnvironment s.environment).1 := by
  rw [Act.perform, after_discard] at h
  obtain ⟨hkept, -⟩ | ⟨-, hread, -⟩ := (uses_perform u s).settings
  · rw [hkept, hs] at h
    cases h
  · rw [hread] at h
    exact (Option.some.inj h).symm

theorem standing_perform_of_not_isUse (happoints : a.appoints = false) (huse : a.isUse = false) :
    (after a.perform s).standing = s.standing := by
  cases a with
  | useRegistry id => cases happoints
  | resetRegistry => cases happoints
  | use u => cases huse
  | elsewhere f apart => exact (apart s).2.2.1
  | _ => rfl

theorem standing_perform_of_some {id : Nat} (happoints : a.appoints = false)
    (hs : s.standing = some id) : (after a.perform s).standing = some id := by
  cases a with
  | use u =>
    rw [Act.perform, after_discard]
    exact (uses_perform u s).standing_of_some hs
  | _ => rw [standing_perform_of_not_isUse happoints rfl, hs]

/-- A use that finds no standing registry makes one by the settings in force, if it uses any. -/
theorem standing_perform_use (u : Use α) {id : Nat} (hs : s.standing = none)
    (h : (after (Act.use u).perform s).standing = some id) : s.registries.length ≤ id ∧
      (after (Act.use u).perform s).registries[id]? = some (Registry.founded s.settled) := by
  rw [Act.perform, after_discard] at h ⊢
  obtain hkept | ⟨-, id', hnew, hstanding, hregistry⟩ := (uses_perform u s).standing
  · rw [hkept, hs] at h
    cases h
  · rw [hstanding] at h
    obtain rfl := Option.some.inj h
    exact ⟨hnew, hregistry⟩

/-- An act that reads the environment gives the warnings about it, and no other act gives any. -/
theorem warnings_perform (a : Act) (s : Session) : (after a.perform s).warnings =
    s.warnings ++ (if a.reads s then [s.environment] else []).flatMap Settings.complaints := by
  cases a with
  | use u =>
    rw [Act.perform, after_discard, Act.reads]
    obtain ⟨hsettings, hwarnings⟩ | ⟨hnone, hsettings, hwarnings⟩ := (uses_perform u s).settings
    · rw [hsettings, hwarnings]
      cases s.settings <;> simp
    · rw [hsettings, hwarnings, hnone, Settings.ofEnvironment_complaints]
      simp
  | elsewhere f apart =>
    refine (apart s).2.2.2.trans ?_
    simp [Act.reads]
  | _ => simp [Act.reads]; rfl

/-- Nothing but uses and what is done elsewhere changes any registry. -/
theorem registries_perform (huse : a.isUse = false) (helsewhere : a.isElsewhere = false) :
    (after a.perform s).registries = s.registries := by
  cases a with
  | use u => cases huse
  | elsewhere f apart => cases helsewhere
  | _ => rfl

/-- A registry without resolvers is changed by what is done elsewhere only. -/
theorem getElem?_registries_perform {id : Nat} {r : Registry} (helsewhere : a.isElsewhere = false)
    (hr : s.registries[id]? = some r) (hresolvers : r.resolvers = []) :
    (after a.perform s).registries[id]? = some r := by
  cases a with
  | use u =>
    rw [Act.perform, after_discard]
    exact (uses_perform u s).kept id r hr hresolvers
  | _ => rw [registries_perform rfl helsewhere, hr]

/-! ## Histories -/

theorem environment_live (acts : List Act) (s : Session) :
    (live acts s).environment = environmentAfter s.environment acts := by
  induction acts generalizing s with
  | nil => rfl
  | cons a acts ih =>
    have hacts := ih (after a.perform s)
    rw [environment_perform] at hacts
    exact hacts

theorem warnings_live (acts : List Act) (s : Session) : (live acts s).warnings =
    s.warnings ++ (readings acts s).flatMap Settings.complaints := by
  induction acts generalizing s with
  | nil => simp [live, readings]
  | cons a acts ih =>
    have hacts := ih (after a.perform s)
    rw [warnings_perform, List.append_assoc, ← List.flatMap_append] at hacts
    exact hacts

theorem getElem?_registries_live {id : Nat} {r : Registry}
    (hacts : ∀ a ∈ acts, a.isElsewhere = false) (hr : s.registries[id]? = some r)
    (hresolvers : r.resolvers = []) : (live acts s).registries[id]? = some r := by
  induction acts generalizing s with
  | nil => exact hr
  | cons a acts ih =>
    obtain ⟨ha, hrest⟩ := List.forall_mem_cons.1 hacts
    exact ih hrest (getElem?_registries_perform ha hr hresolvers)

/-- What is there stays there as long as no act touches it. -/
theorem live_of_some (cell : Session → Option β) {touches : Act → Bool}
    (hkeep : ∀ a s b, touches a = false → cell s = some b → cell (after a.perform s) = some b)
    (hacts : ∀ a ∈ acts, touches a = false) {b : β} (hs : cell s = some b) :
    cell (live acts s) = some b := by
  induction acts generalizing s with
  | nil => exact hs
  | cons a acts ih =>
    obtain ⟨ha, hrest⟩ := List.forall_mem_cons.1 hacts
    exact ih hrest (hkeep a s b ha hs)

/-- What is not there comes with the first use that needs it, as long as no act touches it. -/
theorem live_of_none (cell : Session → Option β) {touches : Act → Bool}
    (hkeep : ∀ a s b, touches a = false → cell s = some b → cell (after a.perform s) = some b)
    (hother : ∀ a s, touches a = false → a.isUse = false → cell (after a.perform s) = cell s)
    (hacts : ∀ a ∈ acts, touches a = false) (hs : cell s = none) :
    cell (live acts s) = none ∨ ∃ (before : List Act) (α : Type) (u : Use α) (rest : List Act)
      (b : β), acts = before ++ .use u :: rest ∧ cell (live before s) = none ∧
        cell (live (before ++ [.use u]) s) = some b ∧ cell (live acts s) = some b := by
  induction acts generalizing s with
  | nil => exact .inl hs
  | cons a acts ih =>
    obtain ⟨ha, hrest⟩ := List.forall_mem_cons.1 hacts
    cases hcell : cell (after a.perform s) with
    | none =>
      obtain hnone | ⟨before, α, u, rest, b, rfl, hbefore, hfirst, hlast⟩ := ih hrest hcell
      · exact .inl hnone
      · exact .inr ⟨a :: before, α, u, rest, b, rfl, hbefore, hfirst, hlast⟩
    | some b =>
      refine .inr ?_
      cases a with
      -- the first act already fills the cell
      | use u => exact ⟨[], _, u, acts, b, rfl, hs, hcell, live_of_some cell hkeep hrest hcell⟩
      | _ =>
        rw [hother _ s ha rfl, hs] at hcell
        cases hcell

/-! ## What governs a session -/

/-- How the settings come about over a history that begins in a session without any. -/
structure SettingsHistory (s₀ : Session) (acts : List Act) : Prop where
  /-- Settings that were given are in force as long as none are given or forgotten. -/
  given : ∀ before settings rest, acts = before ++ .useSettings settings :: rest →
    (∀ a ∈ rest, a.settles = false) → (live acts s₀).settled = settings
  /-- After they were forgotten, and at the beginning, the settings of the environment are in force:
  until the first use of settings those of the present environment, and from then on those of the
  environment at that use. -/
  read : ∀ before rest, acts = before ++ rest →
    (before = [] ∨ ∃ earlier, before = earlier ++ [.resetSettings]) →
    (∀ a ∈ rest, a.settles = false) →
    (live acts s₀).settings = none ∧ (live acts s₀).settled =
        (Settings.ofEnvironment (environmentAfter s₀.environment acts)).1 ∨
      ∃ (between : List Act) (α : Type) (u : Use α) (later : List Act),
        rest = between ++ .use u :: later ∧
        (live (before ++ between) s₀).settings = none ∧
        (live (before ++ between ++ [.use u]) s₀).settings ≠ none ∧
        (live acts s₀).settled =
          (Settings.ofEnvironment (environmentAfter s₀.environment (before ++ between))).1
  /-- Asking for the settings answers those in force. -/
  asked : ∃ t, currentSettings.run (live acts s₀) = .ok (live acts s₀).settled t
  /-- A use does what it would do, had the settings in force been given and the environment been
  silent. -/
  seen : ∀ {α : Type} (u : Use α), u.perform.run (live acts s₀).informed =
    carried informed (u.perform.run (live acts s₀))
  /-- A use that leaves the session without settings uses none: it does the same whatever they
  are. -/
  unused : ∀ {α : Type} (u : Use α), (after u.perform (live acts s₀)).settings = none →
    ∀ settings, u.perform.run (after (useSettings settings) (live acts s₀)) =
      carried (after (useSettings settings)) (u.perform.run (live acts s₀))
  /-- Every environment that was read has been warned about once, if there is need to, and none has
  been that was not read. -/
  warned : (live acts s₀).warnings = (readings acts s₀).flatMap Settings.complaints
  /-- What is warned about counts as eight. -/
  eight : ∀ env ∈ readings acts s₀, Settings.complaints env ≠ [] →
    (Settings.ofEnvironment env).1.equalityPrecision = 8

/-- How the standing registry comes about over a history that begins in a session without any. -/
structure StandingHistory (s₀ : Session) (acts : List Act) : Prop where
  /-- A registry that was given stands in as long as none is given or forgotten. -/
  appointed : ∀ before id rest, acts = before ++ .useRegistry id :: rest →
    (∀ a ∈ rest, a.appoints = false) → (live acts s₀).standing = some id
  /-- After it was forgotten, and at the beginning, there is none until the first use, which makes a
  new one. The settings in force at that use decide what it holds, and it stands in from then on. -/
  founded : ∀ before rest, acts = before ++ rest →
    (before = [] ∨ ∃ earlier, before = earlier ++ [.resetRegistry]) →
    (∀ a ∈ rest, a.appoints = false) →
    (live acts s₀).standing = none ∨
      ∃ (between : List Act) (α : Type) (u : Use α) (later : List Act) (id : Nat) (r : Registry),
        rest = between ++ .use u :: later ∧
        (live (before ++ between) s₀).standing = none ∧
        (live (before ++ between) s₀).registries.length ≤ id ∧
        (live (before ++ between ++ [.use u]) s₀).registries[id]? = some r ∧
        r.Stocked (live (before ++ between) s₀).settled ∧
        (live acts s₀).standing = some id
  /-- Asking for the registry that stands in answers it and changes nothing. -/
  asked : ∀ id, (live acts s₀).standing = some id →
    standingRegistry.run (live acts s₀) = .ok id (live acts s₀)
  /-- A use that leaves the registry out does what it does when it names the one that stands in. -/
  named : ∀ id, (live acts s₀).standing = some id → ∀ {α : Type} (u : Use α),
    (u.naming id).perform.run (live acts s₀) = u.perform.run (live acts s₀)
  /-- A use that leaves the session without a standing registry uses none: it does the same
  whichever it is. -/
  unused : ∀ {α : Type} (u : Use α), (after u.perform (live acts s₀)).standing = none →
    ∀ id, u.perform.run (after (useRegistry id) (live acts s₀)) =
      carried (after (useRegistry id)) (u.perform.run (live acts s₀))
  /-- Giving and forgetting settings and changing the environment alters no registry. -/
  unaltered : ∀ a : Act, a.isUse = false → a.isElsewhere = false →
    (live (acts ++ [a]) s₀).registries = (live acts s₀).registries
  /-- Nor do uses alter a registry without resolvers, as one made on first use is. -/
  lasting : ∀ more : List Act, (∀ a ∈ more, a.isElsewhere = false) →
    ∀ (id : Nat) (r : Registry), (live acts s₀).registries[id]? = some r → r.resolvers = [] →
      (live (acts ++ more) s₀).registries[id]? = some r

variable {s₀ : Session}

/-- Forgetting leaves nothing, and at the beginning there is nothing. -/
theorem live_eq_none (cell : Session → Option β) {forget : Act}
    (hforget : ∀ s, cell (after forget.perform s) = none) (hs : cell s₀ = none)
    (h : acts = [] ∨ ∃ earlier, acts = earlier ++ [forget]) : cell (live acts s₀) = none := by
  obtain rfl | ⟨earlier, rfl⟩ := h
  · exact hs
  · rw [live_append]
    exact hforget _

theorem settingsHistory (hsettings : s₀.settings = none) (hwarnings : s₀.warnings = [])
    (acts : List Act) : SettingsHistory s₀ acts where
  given := by
    rintro before settings rest rfl hrest
    have hgiven : (live rest (after (useSettings settings) (live before s₀))).settings =
        some settings :=
      live_of_some Session.settings (fun _ _ _ => settings_perform_of_some) hrest rfl
    rw [live_append, settled]
    exact congrArg (Option.getD · _) hgiven
  read := by
    rintro before rest rfl hbefore hrest
    have hnone := live_eq_none Session.settings (fun _ => rfl) hsettings hbefore
    -- either no use came since, or there is a first one that read the environment
    obtain hlast | ⟨between, α, u, later, settings, rfl, hbetween, hfirst, hlast⟩ :=
      live_of_none Session.settings (fun _ _ _ => settings_perform_of_some)
        (fun _ _ => settings_perform_of_not_isUse) hrest hnone
    · rw [← live_append] at hlast
      refine .inl ⟨hlast, ?_⟩
      rw [settled, hlast, environment_live]
      rfl
    · refine .inr ⟨between, α, u, later, rfl, ?_, ?_, ?_⟩
      · rwa [live_append]
      · rw [List.append_assoc, live_append, hfirst]
        exact Option.some_ne_none _
      · rw [live_append] at hfirst
        have hread := settings_perform_use u hbetween hfirst
        rw [← live_append, environment_live] at hread
        rw [live_append, settled, hlast]
        exact hread
  asked := ⟨_, run_currentSettings _⟩
  seen u := run_informed u _
  unused u h settings := run_of_settings_eq_none u _ h settings
  warned := by rw [warnings_live, hwarnings, List.nil_append]
  eight _ _ := Settings.equalityPrecision_of_complaints

theorem standingHistory (hstanding : s₀.standing = none) (acts : List Act) :
    StandingHistory s₀ acts where
  appointed := by
    rintro before id rest rfl hrest
    rw [live_append]
    exact live_of_some Session.standing (fun _ _ _ => standing_perform_of_some) hrest rfl
  founded := by
    rintro before rest rfl hbefore hrest
    have hnone := live_eq_none Session.standing (fun _ => rfl) hstanding hbefore
    -- either no use came since, or there is a first one that made the registry
    obtain hlast | ⟨between, α, u, later, id, rfl, hbetween, hfirst, hlast⟩ :=
      live_of_none Session.standing (fun _ _ _ => standing_perform_of_some)
        (fun _ _ => standing_perform_of_not_isUse) hrest hnone
    · rw [← live_append] at hlast
      exact .inl hlast
    · rw [live_append] at hfirst
      obtain ⟨hnew, hregistry⟩ := standing_perform_use u hbetween hfirst
      refine .inr ⟨between, α, u, later, id, Registry.founded _, rfl, ?_, ?_, ?_,
        Registry.stocked_founded _, ?_⟩
      · rwa [live_append]
      · rwa [live_append]
      · rw [live_append, live_append]
        exact hregistry
      · rwa [live_append]
  asked _ := run_standingRegistry_of_some
  named _ hid _ u := run_naming u hid
  unused u h id := run_of_standing_eq_none u _ h id
  unaltered a huse helsewhere := by
    rw [live_append]
    exact registries_perform huse helsewhere
  lasting more hmore id r hr hresolvers := by
    rw [live_append]
    exact getElem?_registries_live hmore hr hresolvers

/-- In every history of a new session, the settings in force are those given last since they were
forgotten, and else those of the environment at the first use since then; and the standing registry
is the one given last, and else the one that the first use has made by the settings in force. -/
theorem governed_live (f : Facilities) (enabled : Bool) (env : Environment) (acts : List Act) :
    SettingsHistory (initial f enabled env) acts ∧ StandingHistory (initial f enabled env) acts :=
  ⟨settingsHistory rfl rfl acts, standingHistory rfl acts⟩

/-- The settings that were given last are forgotten, and the next use reads the environment. -/
example : (live [.useSettings { equalityPrecision := 3 },
    .environment [(Settings.precisionVariable, "2")], .resetSettings, .use .settings,
    .environment []] (start true [])).settled.equalityPrecision = 2 := by
  decide +kernel

end Session

end Metrology
