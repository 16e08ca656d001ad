import Metrology.Proofs.Session.Growth
import Metrology.Registry.Entries
import Metrology.Session.Standard

/-!
# Runs of operations on registries

An *operation* is anything that a program does with registries; a run is a list of them, on any
number of registries. Every operation advances the session by the conversion functions that it
registers, so after a run every registry still has tables that its units and its conversion
functions determine (`tables_of_play`).
-/

namespace Metrology

open Session

/-- What a registry can be asked about what it holds. -/
inductive Inquiry where
  | name
  | units (d : Option Dimension)
  | dimensions
  | isRegistered (m : Measure)
  | resolve (m : Measure)
  | isConvertible (source target : Measure)
  | unitEntries (d : Option Dimension)
  | conversionEntries
  | summary

/-- What a registry answers to an inquiry. -/
inductive Finding where
  | text (s : String)
  | units (ms : List Measure)
  | dimensions (ds : List Dimension)
  | truth (b : Bool)
  | unit (m : Option Measure)
  | unitEntries (es : List UnitEntry)
  | conversionEntries (es : List ConversionEntry)
  | summary (s : RegistrySummary)

/-- The answer of a registry over a basis. -/
def Registry.find (r : Registry) (b : Basis) : Inquiry → Finding
  | .name => .text r.name
  | .units d => .units (r.unitsOf d)
  | .dimensions => .dimensions r.dimensions
  | .isRegistered m => .truth (r.isRegistered m)
  | .resolve m => .unit (r.resolve? m)
  | .isConvertible source target => .truth (r.isConvertible source target)
  | .unitEntries d => .unitEntries (r.unitEntries b d)
  | .conversionEntries => .conversionEntries (r.conversionEntries b)
  | .summary => .summary (r.summary b)

/-- Ask a registry. -/
def Session.inquire (id : Nat) (q : Inquiry) : SessionM Finding := do
  let r ← registry id
  pure (r.find (← get).basis q)

/-- An operation on registries. -/
inductive Operation where
  | create (name : String)
  /-- Have the standing registry set up if it is not. -/
  | standing
  | useRegistry (id : Nat)
  | resetRegistry
  | register (id : Nat) (unit : UnitRef)
  | registerAll (id : Nat) (units : List UnitRef)
  | registerCatalog (id : Nat) (c : Catalog)
  | registerTemperatureConversions (id : Nat)
  | registerStandard (id : Nat)
  | addConversion (id : Nat) (c : Conversion)
  | addResolver (id : Nat) (s : Resolver)
  | removeResolver (id : Nat) (key : String)
  | tryName (id : Nat) (name : String)
  | unitNamed (id : Nat) (name : String)
  | trySymbol (id : Nat) (symbol : String)
  | unitWithSymbol (id : Nat) (symbol : String)
  | parseUnit (id : Option Nat) (text : String)
  | newQuantity (value : Float) (unit : UnitRef) (id : Option Nat)
  | inquire (id : Nat) (q : Inquiry)
  | convert (id : Nat) (q : Quantity) (target : Measure)
  /-- Whatever a program does without its registries. -/
  | elsewhere (f : Session → Session) (apart : ∀ s, (f s).registries = s.registries)

namespace Operation

/-- Perform an operation. -/
def perform : Operation → SessionM Unit
  | create name => discard (newRegistry name)
  | standing => discard standingRegistry
  | useRegistry id => Session.useRegistry id
  | resetRegistry => Session.resetRegistry
  | register id unit => registerRef id unit
  | registerAll id units => units.forM (registerRef id)
  | registerCatalog id c => Session.registerCatalog id c
  | registerTemperatureConversions id => Session.registerTemperatureConversions id
  | registerStandard id => Session.registerStandard id
  | addConversion id c => Session.addConversion id c
  | addResolver id s => do putRegistry id ((← registry id).addResolver s)
  | removeResolver id key => do putRegistry id ((← registry id).removeResolver key)
  | tryName id name => discard (Session.tryName id name)
  | unitNamed id name => discard (Session.unitNamed id name)
  | trySymbol id symbol => discard (Session.trySymbol id symbol)
  | unitWithSymbol id symbol => discard (Session.unitWithSymbol id symbol)
  | parseUnit id text => discard (Session.parseUnit id text)
  | newQuantity value unit id => discard (Session.newQuantity value unit id)
  | inquire id q => discard (Session.inquire id q)
  | convert id q target => discard (Session.convert id q target)
  | elsewhere f _ => modify f

/-- The conversion functions that an operation registers with the registry with a number. -/
def conversionsAt : Operation → Nat → List Conversion
  | registerTemperatureConversions id => only id Catalog.temperatureConversions
  | registerStandard id => only id Catalog.temperatureConversions
  | addConversion id c => only id [c]
  | _ => fun _ => []

theorem advances_resolvers (id : Nat) (f : Registry → List Resolver) {s t : Session}
    (ht : t.registries =
      s.registries.set id { s.registryAt id with resolvers := f (s.registryAt id) }) :
    Advances (fun _ => []) s t := by
  rw [← only_nil id]
  exact advances_set s t id (fun r => { r with resolvers := f r }) [] ht
    (fun _ => List.prefix_refl _) fun r cs hr => by simpa using hr.of_resolvers (f r)

/-- Every operation advances the session by the conversion functions that it registers. -/
theorem advances_perform (op : Operation) (s : Session) :
    Advances op.conversionsAt s (after op.perform s) := by
  cases op with
  | create name => exact (growth_newRegistry name).discard s
  | standing => exact growth_standingRegistry.discard s
  | useRegistry id => exact advances_of_registries_eq rfl
  | resetRegistry => exact advances_of_registries_eq rfl
  | register id unit => exact growth_registerRef id unit s
  | registerAll id units => exact Frame.Allows.forM (fun u _ => growth_registerRef id u) s
  | registerCatalog id c => exact growth_registerCatalog id c s
  | registerTemperatureConversions id => exact advances_addConversions id _ s
  | registerStandard id => exact advances_registerStandard id s
  | addConversion id c => exact advances_addConversion id c s
  | addResolver id a => exact advances_resolvers id (fun r => r.resolvers ++ [a]) rfl
  | removeResolver id key =>
    exact advances_resolvers id (fun r => r.resolvers.eraseP fun a => a.id = key) rfl
  | tryName id name => exact (growth_tryName id name).discard s
  | unitNamed id name => exact (growth_unitNamed id name).discard s
  | trySymbol id symbol => exact (growth_of_silent (silent_trySymbol id symbol)).discard s
  | unitWithSymbol id symbol => exact (growth_of_silent (silent_unitWithSymbol id symbol)).discard s
  | parseUnit id text => exact (growth_parseUnit id text).discard s
  | newQuantity value unit id =>
    exact ((growth_resolveRef id unit).bind fun m =>
      growth_of_silent (Frame.silent_quantity value m)).discard s
  | inquire id q => exact advances_of_registries_eq rfl
  | convert id q target => exact (growth_convert id q target).discard s
  | elsewhere f apart => exact advances_of_registries_eq (apart s)

end Operation

/-- The session after a run of operations, of which some may have failed. -/
def Session.play (ops : List Operation) (s : Session) : Session :=
  ops.foldl (fun s op => after op.perform s) s

/-- A run advances the session by the conversion functions that its operations register. -/
theorem Session.advances_play (ops : List Operation) (s : Session) :
    Advances (fun i => ops.flatMap fun op => op.conversionsAt i) s (play ops s) := by
  induction ops generalizing s with
  | nil => exact Frame.growth.refl s
  | cons op ops ih =>
    simp only [List.flatMap_cons]
    exact (op.advances_perform s).trans (ih (after op.perform s))

/-! ## Operations that register nothing -/

/-- Registries that are as given stay so. -/
def Frame.fixed (rs : List Registry) : Frame where
  rel s t := s.registries = rs → t.registries = rs
  refl _ h := h
  trans h h' hs := h' (h hs)

theorem Frame.silent_le_fixed (rs : List Registry) (s t : Session) (h : Frame.silent.rel s t) :
    (Frame.fixed rs).rel s t := fun hs => h.trans hs

/-- With the registries as given, the routine registers nothing: if the conversions that it asks for
leave the registries as they are, then so does the routine. -/
def Routine.Quiet (rs : List Registry) (ρ : Routine) : Prop :=
  ∀ convert, (∀ q target, (Frame.fixed rs).Allows (convert q target)) →
    (Frame.fixed rs).Allows (run convert ρ)

/-- What is given as a unit is one that is registered, or is no unit and is refused. -/
def Registry.Knows (r : Registry) : UnitRef → Prop
  | .unit m => r.isRegistered m = true
  | _ => True

/-- Looking a name up asks no resolver that would answer: the table has the name, or every resolver
passes. -/
def Registry.Settles (r : Registry) (name : String) : Prop :=
  (∃ m, r.byName.get? name = some m) ∨ ∀ a ∈ r.resolvers, a.reply name = .pass

/-- The operation registers nothing: it registers units again, looks up what no resolver answers,
asks for something, or converts by functions that register nothing. -/
def Operation.Idle (s : Session) : Operation → Prop
  | .useRegistry _ => True
  | .resetRegistry => True
  | .register id unit => (s.registryAt id).Knows unit
  | .registerAll id units => ∀ u ∈ units, (s.registryAt id).Knows u
  | .tryName id name => (s.registryAt id).Settles name
  | .unitNamed id name => (s.registryAt id).Settles name
  | .trySymbol .. => True
  | .unitWithSymbol .. => True
  | .inquire .. => True
  | .convert id _ _ => ∀ c ∈ (s.registryAt id).conversions.values, ∀ q,
      (c.apply q).Quiet s.registries
  | .elsewhere .. => True
  | _ => False

namespace Session

/-- Sessions with the same registries have the same one at each number. -/
theorem registryAt_congr {s t : Session} (h : t.registries = s.registries) (id : Nat) :
    t.registryAt id = s.registryAt id := by
  simp [registryAt, h]

/-- Registering a unit that the registry knows changes nothing. -/
theorem fixed_registerRef {s : Session} {id : Nat} {u : UnitRef} (h : (s.registryAt id).Knows u) :
    (Frame.fixed s.registries).Allows (registerRef id u) := by
  cases u with
  | unit m =>
    intro t ht
    -- the unit is known in every session with these registries
    have hm : (t.registryAt id).isRegistered m = true := by
      rw [registryAt_congr ht]
      exact h
    have hrun : (registerRef id (.unit m)).run t = .ok () t := by
      show (register id m).run t = _
      rw [run_register]
      simp [hm]
    rw [after_of_ok hrun]
    exact ht
  | name text => exact Frame.allows_throw _
  | other kind => exact Frame.allows_throw _

/-- A name in the table is found there. -/
theorem run_tryName_of_get? {s : Session} {id : Nat} {name : String} {m : Measure}
    (h : (s.registryAt id).byName.get? name = some m) :
    (tryName id name).run s =
      .ok (some m) { s with meters := s.meters.count (.nameLookup .hit) } := by
  unfold tryName
  rw [run_bind_of_ok (run_registry id s), h]
  rfl

/-- Resolvers that pass give no answer. -/
theorem run_consultAll_of_pass {name : String} {rs : List Resolver}
    (h : ∀ a ∈ rs, a.reply name = .pass) (s : Session) :
    (consultAll name rs).run s = .ok none (after (consultAll name rs) s) := by
  induction rs generalizing s with
  | nil => rfl
  | cons a rs ih =>
    have hask : (consult name a).run s = .ok none (after (note (.consulted a.id name)) s) := by
      unfold consult
      rw [h a List.mem_cons_self]
      rfl
    have hrest := ih (fun b hb => h b (List.mem_cons_of_mem a hb))
      (after (note (.consulted a.id name)) s)
    have hrun : (consultAll name (a :: rs)).run s = _ := (run_bind_of_ok hask _).trans hrest
    rw [hrun, after_of_ok hrun]

/-- A name that no table has and no resolver answers is not found. -/
theorem run_tryName_of_pass {s : Session} {id : Nat} {name : String}
    (h : (s.registryAt id).byName.get? name = none)
    (hp : ∀ a ∈ (s.registryAt id).resolvers, a.reply name = .pass) :
    (tryName id name).run s = .ok none (after (count (.nameLookup .miss))
      (after (consultAll name (s.registryAt id).resolvers) s)) := by
  unfold tryName
  rw [run_bind_of_ok (run_registry id s), h]
  exact run_bind_of_ok (run_consultAll_of_pass hp s) _

theorem registries_tryName_of_settles {s : Session} {id : Nat} {name : String}
    (h : (s.registryAt id).Settles name) :
    (after (tryName id name) s).registries = s.registries := by
  cases hm : (s.registryAt id).byName.get? name with
  | some m => rw [after_of_ok (run_tryName_of_get? hm)]
  | none =>
    obtain ⟨m, hn⟩ | hp := h
    · rw [hm] at hn
      cases hn
    · rw [after_of_ok (run_tryName_of_pass hm hp)]
      exact silent_consultAll name _ s

/-- Looking for a unit by name leaves what looking the name up leaves. -/
theorem after_unitNamed (id : Nat) (name : String) (s : Session) :
    after (unitNamed id name) s = after (tryName id name) s := by
  unfold unitNamed
  cases h : (tryName id name).run s with
  | ok answer s' =>
    rw [after_bind_of_ok h, after_of_ok h]
    cases answer <;> rfl
  | error f s' => rw [after_of_error (run_bind_of_error h _), after_of_error h]

/-- An idle operation leaves all registries. -/
theorem silent_of_idle {s : Session} {op : Operation} (h : op.Idle s) :
    (after op.perform s).registries = s.registries := by
  cases op with
  | useRegistry id => rfl
  | resetRegistry => rfl
  | register id unit => exact fixed_registerRef h s rfl
  | registerAll id units =>
    have hall : (Frame.fixed s.registries).Allows (units.forM (registerRef id)) :=
      Frame.Allows.forM fun u hu => fixed_registerRef (h u hu)
    exact hall s rfl
  | tryName id name =>
    rw [Operation.perform, after_discard]
    exact registries_tryName_of_settles h
  | unitNamed id name =>
    rw [Operation.perform, after_discard, after_unitNamed]
    exact registries_tryName_of_settles h
  | trySymbol id symbol => exact (silent_trySymbol id symbol).discard s
  | unitWithSymbol id symbol => exact (silent_unitWithSymbol id symbol).discard s
  | inquire id q => rfl
  | convert id q target =>
    have hconvert : (Frame.fixed s.registries).Allows (convert id q target) := by
      refine allows_convert id (Frame.silent_le_fixed _) (fun t => ?_) q target
      -- functions are quiet in these registries only, and the frame asks for no more
      by_cases ht : t.registries = s.registries
      · refine .inr fun c hc convert hconvert a => h c ?_ a convert hconvert
        rw [← registryAt_congr ht]
        exact hc
      · exact .inl fun u hu => absurd hu ht
    exact hconvert.discard s rfl
  | elsewhere f apart => exact apart s
  | _ => exact h.elim

/-! ## The tables after a run -/

/-- A run goes on where an earlier one stopped. -/
theorem play_append (ops more : List Operation) (s : Session) :
    play (ops ++ more) s = play more (play ops s) :=
  List.foldl_append

/-- A registry that exists before a run stays determined throughout. -/
theorem recorded_of_play {s : Session} {id : Nat} {r : Registry} {cs : List Conversion}
    (h : s.registries[id]? = some r) (hr : r.Recorded cs) (ops : List Operation) :
    ∃ r', (play ops s).registries[id]? = some r' ∧ r.units <+: r'.units ∧
      r'.Recorded (cs ++ ops.flatMap fun op => op.conversionsAt id) := by
  obtain ⟨r', hr', hp, hc⟩ := (advances_play ops s).known h
  exact ⟨r', hr', hp, hc cs hr⟩

/-- Every registry has determined tables after a run. -/
theorem exists_recorded_of_play {f : Facilities} {enabled : Bool} {env : Environment}
    {ops : List Operation} {id : Nat} {r : Registry}
    (h : (play ops (initial f enabled env)).registries[id]? = some r) :
    ∃ cs, r.Recorded cs :=
  (advances_play ops (initial f enabled env)).fresh rfl h

/-- Registering a unit adds it at the end of the units, unless it is there. -/
theorem getElem?_registries_register {s : Session} {id : Nat} {r : Registry}
    (h : s.registries[id]? = some r) (m : Measure) :
    (after (register id m) s).registries[id]? = some (r.register m) := by
  have hat := registryAt_of_getElem? h
  unfold after
  rw [run_register, hat]
  by_cases hm : r.isRegistered m = true
  · simp only [hm, if_true]
    rw [Registry.register_of_isRegistered hm]
    exact h
  · simp only [hm]
    exact List.getElem?_set_self (List.getElem?_eq_some_iff.1 h).1

/-- Looking a name up answers with a unit that is registered then. -/
theorem isRegistered_of_tryName {s s' : Session} {id : Nat} {r : Registry} {cs : List Conversion}
    (h : s.registries[id]? = some r) (hr : r.Recorded cs) {name : String} {m : Measure}
    (hm : (tryName id name).run s = .ok (some m) s') :
    (s'.registryAt id).isRegistered m = true := by
  have hat := registryAt_of_getElem? h
  unfold tryName at hm
  rw [run_bind_of_ok (run_registry id s), hat] at hm
  cases hget : r.byName.get? name with
  | some u =>
    rw [hget] at hm
    obtain ⟨rfl, rfl⟩ : u = m ∧ after (count (.nameLookup .hit)) s = s' := by
      simpa [after, count, meter] using hm
    show (s.registryAt id).isRegistered u = true
    rw [hat]
    exact hr.isRegistered_of_byName hget
  | none =>
    rw [hget] at hm
    dsimp only at hm
    cases hask : (consultAll name r.resolvers).run s with
    | error f t =>
      rw [run_bind_of_error hask] at hm
      cases hm
    | ok answer t =>
      rw [run_bind_of_ok hask] at hm
      cases answer with
      | none => simp [count, meter] at hm
      | some u =>
        obtain ⟨v, hreg⟩ := total_register id u t
        -- resolvers register nothing themselves, so the answer goes to the registry as it was
        have ht : t.registries[id]? = some r := by
          have hsilent := silent_consultAll name r.resolvers s
          rw [after_of_ok hask] at hsilent
          rw [show t.registries = s.registries from hsilent]
          exact h
        dsimp only at hm
        rw [run_bind_of_ok hreg] at hm
        obtain ⟨rfl, rfl⟩ : u = m ∧
            after (count (.nameLookup .resolver)) (after (register id u) t) = s' := by
          simpa [after, count, meter] using hm
        show ((after (register id u) t).registryAt id).isRegistered u = true
        rw [registryAt_of_getElem? (getElem?_registries_register ht u)]
        exact r.isRegistered_register u

/-- After every run of operations, the tables of every registry are determined by its units and by
the conversion functions registered with it, which for a registry made in the run are exactly those
that its operations register. However the run goes on, units are only added behind the others and
the tables stay determined. Registering a unit adds it unless it is there, looking a name up answers
with a registered unit, and what registers nothing changes no table of any registry. -/
theorem tables_of_play (f : Facilities) (enabled : Bool) (env : Environment)
    (ops : List Operation) (id : Nat) (r : Registry)
    (h : (play ops (initial f enabled env)).registries[id]? = some r) :
    (∃ cs, r.Determined cs ∧
      ∀ more, ∃ r', (play (ops ++ more) (initial f enabled env)).registries[id]? = some r' ∧
        r.units <+: r'.units ∧
        r'.Determined (cs ++ more.flatMap fun op => op.conversionsAt id)) ∧
    (∀ before name rest, ops = before ++ .create name :: rest →
      id = (play before (initial f enabled env)).registries.length →
      r.Determined (rest.flatMap fun op => op.conversionsAt id)) ∧
    (∀ m, ∃ r',
      (play (ops ++ [.register id (.unit m)]) (initial f enabled env)).registries[id]? = some r' ∧
      r'.units = if r.isRegistered m then r.units else r.units ++ [m]) ∧
    (∀ name m s', (tryName id name).run (play ops (initial f enabled env)) = .ok (some m) s' →
      (s'.registryAt id).isRegistered m = true) ∧
    ∀ op, op.Idle (play ops (initial f enabled env)) →
      (play (ops ++ [op]) (initial f enabled env)).registries =
        (play ops (initial f enabled env)).registries := by
  obtain ⟨cs, hcs⟩ := exists_recorded_of_play h
  refine ⟨⟨cs, hcs.determined, fun more => ?_⟩, fun before name rest hops hid => ?_, fun m => ?_,
    fun name m s' hm => isRegistered_of_tryName h hcs hm, fun op hop => ?_⟩
  · obtain ⟨r', hr', hp, hc⟩ := recorded_of_play h hcs more
    rw [play_append]
    exact ⟨r', hr', hp, hc.determined⟩
  · -- the registry that is made is empty, and the rest of the run determines its tables
    have hnew : (play [.create name] (play before (initial f enabled env))).registries[id]? =
        some (.empty name) := by
      rw [hid]
      exact List.getElem?_concat_length
    obtain ⟨r', hr', -, hc⟩ := recorded_of_play hnew (Registry.recorded_empty name) rest
    rw [← play_append, ← play_append, List.singleton_append, ← hops, h] at hr'
    cases hr'
    exact hc.determined
  · rw [play_append]
    refine ⟨r.register m, getElem?_registries_register h m, ?_⟩
    by_cases hm : r.isRegistered m = true
    · rw [if_pos hm, Registry.register_of_isRegistered hm]
    · rw [if_neg hm, Registry.units_register (by simpa using hm)]
  · rw [play_append]
    exact silent_of_idle hop

/-- A registry that is made, given the unit of pure numbers and asked for its name. -/
theorem tables_of_play_create_register :
    ∃ r, (play [.create "units", .register 0 (.unit .one), .tryName 0 ""]
        (start true [])).registries[0]? = some r ∧ r.Determined [] := by
  obtain ⟨r, hr⟩ : ∃ r, (play [.create "units", .register 0 (.unit .one), .tryName 0 ""]
      (start true [])).registries[0]? = some r := ⟨_, rfl⟩
  have hmade := (tables_of_play .standard true [] _ 0 r hr).2.1 [] "units"
    [.register 0 (.unit .one), .tryName 0 ""] rfl rfl
  exact ⟨r, hr, hmade⟩

end Session

end Metrology
