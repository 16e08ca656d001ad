import Metrology.Proofs.Session.Operation
import Metrology.Session.Standard

/-!
# Looking names up

A name that a registered unit has is found in the table, and no resolver is asked. Any other name is
put to the resolvers one after another, in the order in which they were added, until one of them
answers; its answer is registered and is found in the table from then on, if it has the name
(`Session.tryName_outcome`). The journal tells which resolvers were asked.
-/

namespace Metrology

open Session

/-- The unit that a resolver answers to a name, where the next serial number is given. -/
def Resolver.answer? (a : Resolver) (name : String) (serial : Nat) : Option Measure :=
  match a.reply name with
  | .pass => none
  | .unit m => some m
  | .fresh d => some { d with serial }

/-- What the journal tells where resolvers are asked for a name. -/
def questions (name : String) (rs : List Resolver) : List Note :=
  rs.map fun a => .consulted a.id name

theorem append_questions_concat (journal : Array Note) (name : String) (rs : List Resolver)
    (a : Resolver) : journal ++ questions name (rs ++ [a]) =
      (journal ++ questions name rs).push (.consulted a.id name) := by
  apply Array.ext'
  simp [questions]

namespace Session

variable {s t : Session} {id : Nat} {r : Registry} {name : String}

/-! ## Asking resolvers -/

/-- Resolvers that pass are heard in the journal only. -/
theorem run_consultAll_append {before : List Resolver} (h : ∀ a ∈ before, a.reply name = .pass)
    (rest : List Resolver) (s : Session) :
    (consultAll name (before ++ rest)).run s =
      (consultAll name rest).run { s with journal := s.journal ++ questions name before } := by
  induction before generalizing s with
  | nil => simp [questions]
  | cons a before ih =>
    have hask : (consult name a).run s =
        .ok none { s with journal := s.journal.push (.consulted a.id name) } := by
      unfold consult
      rw [h a List.mem_cons_self]
      rfl
    rw [List.cons_append, consultAll, run_bind_of_ok hask,
      ih fun b hb => h b (List.mem_cons_of_mem a hb)]
    simp [questions]

/-- A resolver that answers is the last that is asked. -/
theorem run_consultAll_cons {a : Resolver} {m : Measure}
    (h : a.answer? name s.nextSerial = some m) (rest : List Resolver) :
    ∃ t, (consultAll name (a :: rest)).run s = .ok (some m) t ∧ t.registries = s.registries ∧
      t.meters = s.meters ∧ t.journal = s.journal.push (.consulted a.id name) := by
  have hask : ∃ t, (consult name a).run s = .ok (some m) t ∧ t.registries = s.registries ∧
      t.meters = s.meters ∧ t.journal = s.journal.push (.consulted a.id name) := by
    unfold Resolver.answer? at h
    unfold consult
    cases hreply : a.reply name with
    | pass =>
      rw [hreply] at h
      cases h
    | unit u =>
      rw [hreply] at h
      cases h
      exact ⟨_, rfl, rfl, rfl, rfl⟩
    | fresh d =>
      rw [hreply] at h
      cases h
      exact ⟨_, rfl, rfl, rfl, rfl⟩
  obtain ⟨t, ht, hrest⟩ := hask
  refine ⟨t, ?_, hrest⟩
  rw [consultAll, run_bind_of_ok ht]
  rfl

/-- The registries with a unit registered, unless it is there. -/
theorem registries_register (id : Nat) (m : Measure) (s : Session) :
    (after (register id m) s).registries =
      if (s.registryAt id).isRegistered m then s.registries
      else s.registries.set id ((s.registryAt id).register m) := by
  unfold after
  rw [run_register]
  by_cases h : (s.registryAt id).isRegistered m = true <;> simp [h]

theorem journal_register (id : Nat) (m : Measure) (s : Session) :
    (after (register id m) s).journal = s.journal := by
  unfold after
  rw [run_register]
  by_cases h : (s.registryAt id).isRegistered m = true <;> simp [h]

theorem meters_register (id : Nat) (m : Measure) (s : Session) :
    (after (register id m) s).meters =
      if (s.registryAt id).isRegistered m then s.meters
      else s.meters.showUnits (s.registryAt id).name
        ((s.registryAt id).register m).units.length := by
  unfold after
  rw [run_register]
  by_cases h : (s.registryAt id).isRegistered m = true <;> simp [h]

/-- The first resolver that answers decides, and its answer is registered. -/
theorem run_tryName_of_answer {before after' : List Resolver} {a : Resolver} {m : Measure}
    (hname : (s.registryAt id).byName.get? name = none)
    (hrs : (s.registryAt id).resolvers = before ++ a :: after')
    (hbefore : ∀ b ∈ before, b.reply name = .pass)
    (ha : a.answer? name s.nextSerial = some m) :
    ∃ t, (tryName id name).run s = .ok (some m) t ∧
      t.journal = s.journal ++ questions name (before ++ [a]) ∧
      t.registries = (after (register id m) s).registries ∧
      t.meters = (after (register id m) s).meters.count (.nameLookup .resolver) := by
  -- the resolvers in front pass, and the next one answers
  obtain ⟨t, ht, (hregistries : t.registries = s.registries), (hmeters : t.meters = s.meters),
    hjournal⟩ := run_consultAll_cons
      (s := { s with journal := s.journal ++ questions name before }) ha after'
  have hask : (consultAll name (s.registryAt id).resolvers).run s = .ok (some m) t := by
    rw [hrs, run_consultAll_append hbefore, ht]
  obtain ⟨u, hregister⟩ := total_register id m t
  refine ⟨after (count (.nameLookup .resolver)) (after (register id m) t), ?_, ?_, ?_, ?_⟩
  · unfold tryName
    rw [run_bind_of_ok (run_registry id s), hname]
    dsimp only
    rw [run_bind_of_ok hask]
    exact run_bind_of_ok hregister _
  · show (after (register id m) t).journal = _
    rw [journal_register, hjournal, append_questions_concat]
  · show (after (register id m) t).registries = _
    rw [registries_register, registries_register, registryAt_congr hregistries, hregistries]
  · show (after (register id m) t).meters.count _ = _
    rw [meters_register, meters_register, registryAt_congr hregistries, hmeters]

/-- Where no resolver answers, all of them were asked. -/
theorem run_tryName_of_no_answer (hname : (s.registryAt id).byName.get? name = none)
    (hrs : ∀ a ∈ (s.registryAt id).resolvers, a.reply name = .pass) :
    ∃ t, (tryName id name).run s = .ok none t ∧ t.registries = s.registries ∧
      t.meters = s.meters.count (.nameLookup .miss) ∧
      t.journal = s.journal ++ questions name (s.registryAt id).resolvers := by
  have hask := run_consultAll_append hrs [] s
  rw [List.append_nil] at hask
  exact ⟨_, run_tryName_of_pass hname hrs, by rw [after_of_ok hask]; exact ⟨rfl, rfl, rfl⟩⟩

/-! ## The resolvers of a registry -/

end Session

/-- The resolvers of a registry after an operation: one that is added goes behind the others, and
of those with a key the first is removed. -/
def Operation.resolversAt (id : Nat) (rs : List Resolver) : Operation → List Resolver
  | .addResolver i a => if i = id then rs ++ [a] else rs
  | .removeResolver i key => if i = id then rs.eraseP fun a => a.id = key else rs
  | _ => rs

/-- Every registry keeps its resolvers. -/
def Frame.loyal : Frame where
  rel s t := ∀ (i : Nat) (r : Registry), s.registries[i]? = some r →
    ∃ r', t.registries[i]? = some r' ∧ r'.resolvers = r.resolvers
  refl s := fun i r hr => ⟨r, hr, rfl⟩
  trans := by
    intro s t u h h' i r hr
    obtain ⟨r', hr', heq⟩ := h i r hr
    obtain ⟨r'', hr'', heq'⟩ := h' i r' hr'
    exact ⟨r'', hr'', heq'.trans heq⟩

namespace Session

variable {α : Type} {s t : Session} {id : Nat} {r : Registry} {name : String}

theorem Frame.silent_le_loyal (s t : Session) (h : Frame.silent.rel s t) : Frame.loyal.rel s t :=
  fun _ r hr => ⟨r, h ▸ hr, rfl⟩

theorem loyal_of_silent {x : SessionM α} (h : Frame.silent.Allows x) : Frame.loyal.Allows x :=
  h.mono Frame.silent_le_loyal

/-- What a registry holds after one registry was replaced. -/
theorem getElem?_registries_set {f : Registry → Registry}
    (ht : t.registries = s.registries.set id (f (s.registryAt id))) {i : Nat}
    (hr : s.registries[i]? = some r) : t.registries[i]? = some (if i = id then f r else r) := by
  by_cases hi : i = id
  · subst hi
    rw [ht, registryAt_of_getElem? hr, if_pos rfl]
    exact List.getElem?_set_self (List.getElem?_eq_some_iff.1 hr).1
  · rw [ht, List.getElem?_set_ne (Ne.symm hi), if_neg hi, hr]

theorem loyal_set {f : Registry → Registry} (hf : ∀ r, (f r).resolvers = r.resolvers)
    (ht : t.registries = s.registries.set id (f (s.registryAt id))) : Frame.loyal.rel s t := by
  intro i r hr
  refine ⟨_, getElem?_registries_set ht hr, ?_⟩
  split
  · exact hf r
  · rfl

theorem loyal_register (id : Nat) (m : Measure) : Frame.loyal.Allows (register id m) := by
  intro s
  have hregister := registries_register id m s
  split at hregister
  · exact Frame.silent_le_loyal _ _ hregister
  · exact loyal_set (fun r => r.resolvers_register m) hregister

theorem loyal_addConversion (id : Nat) (c : Conversion) : Frame.loyal.Allows (addConversion id c) :=
  fun _ => loyal_set (f := (·.addConversion c)) (fun _ => rfl) rfl

theorem loyal_newRegistry (name : String) : Frame.loyal.Allows (newRegistry name) := by
  intro s i r hr
  refine ⟨r, ?_, rfl⟩
  rw [after_of_ok (run_newRegistry name s)]
  exact (List.getElem?_append_left (List.getElem?_eq_some_iff.1 hr).1).trans hr

theorem loyal_registerRef (id : Nat) (u : UnitRef) : Frame.loyal.Allows (registerRef id u) := by
  cases u with
  | unit m => exact loyal_register id m
  | name text => exact Frame.allows_throw _
  | other kind => exact Frame.allows_throw _

theorem loyal_registerStandard (id : Nat) : Frame.loyal.Allows (registerStandard id) :=
  Frame.loyal.conduct.holds_registerStandard (loyal_register id) (loyal_addConversion id)

theorem loyal_standingRegistry : Frame.loyal.Allows standingRegistry :=
  Frame.allows_standingRegistry (loyal_newRegistry _) (loyal_of_silent Frame.silent_currentSettings)
    loyal_registerStandard fun _ => loyal_of_silent (Frame.allows_modify fun _ => rfl)

theorem loyal_registryOr (o : Option Nat) : Frame.loyal.Allows (registryOr o) :=
  Frame.loyal.conduct.holds_registryOr loyal_standingRegistry o

theorem loyal_tryName (id : Nat) (name : String) : Frame.loyal.Allows (tryName id name) :=
  Frame.loyal.conduct.holds_tryName (Frame.loyal.allows_registry id)
    (fun name rs => loyal_of_silent (silent_consultAll name rs))
    (loyal_register id) (fun _ => loyal_of_silent (Frame.silent_count _)) name

theorem loyal_resolveRef (o : Option Nat) (u : UnitRef) : Frame.loyal.Allows (resolveRef o u) :=
  Frame.loyal.conduct.holds_resolveRef loyal_registryOr loyal_tryName o u

theorem loyal_parseUnit (o : Option Nat) (text : String) : Frame.loyal.Allows (parseUnit o text) :=
  Frame.loyal.conduct.holds_parseUnit
    (Frame.loyal.conduct.holds_evaluate loyal_tryName
      (fun id symbol => loyal_of_silent (silent_trySymbol id symbol)) (loyal_registryOr o) text)
    (fun _ => loyal_of_silent (Frame.silent_count _))
    (fun u => loyal_of_silent (Frame.silent_realize u))

theorem loyal_convert (id : Nat) (q : Quantity) (target : Measure) :
    Frame.loyal.Allows (convert id q target) :=
  allows_convert id Frame.silent_le_loyal (fun _ => .inr fun _ _ _ hc _ =>
    Frame.loyal.conduct.holds_run
      (fun _ _ => loyal_of_silent (Frame.silent_quantity _ _)) (loyal_resolveRef none) hc _)
    q target

/-- An operation changes the resolvers of a registry only where it adds or removes one. -/
theorem resolvers_perform (op : Operation) (h : s.registries[id]? = some r) :
    ∃ r', (after op.perform s).registries[id]? = some r' ∧
      r'.resolvers = op.resolversAt id r.resolvers := by
  -- an operation that writes one registry leaves the resolvers of the others
  have hset : ∀ i (f : Registry → Registry), (after op.perform s).registries =
      s.registries.set i (f (s.registryAt i)) → ∃ r',
        (after op.perform s).registries[id]? = some r' ∧
          r'.resolvers = if i = id then (f r).resolvers else r.resolvers := by
    intro i f hf
    refine ⟨_, getElem?_registries_set hf h, ?_⟩
    by_cases hi : id = i
    · rw [if_pos hi, if_pos hi.symm]
    · rw [if_neg hi, if_neg (Ne.symm hi)]
  cases op with
  | addResolver i a => exact hset i (·.addResolver a) rfl
  | removeResolver i key => exact hset i (·.removeResolver key) rfl
  -- all other operations are loyal to the resolvers
  | create name => exact (loyal_newRegistry name).discard s id r h
  | standing => exact loyal_standingRegistry.discard s id r h
  | useRegistry i => exact ⟨r, h, rfl⟩
  | resetRegistry => exact ⟨r, h, rfl⟩
  | register i unit => exact loyal_registerRef i unit s id r h
  | registerAll i units => exact Frame.Allows.forM (fun u _ => loyal_registerRef i u) s id r h
  | registerCatalog i c => exact Frame.Allows.forM (fun m _ => loyal_register i m) s id r h
  | registerTemperatureConversions i =>
    exact Frame.Allows.forM (fun c _ => loyal_addConversion i c) s id r h
  | registerStandard i => exact loyal_registerStandard i s id r h
  | addConversion i c => exact loyal_addConversion i c s id r h
  | tryName i name => exact (loyal_tryName i name).discard s id r h
  | unitNamed i name =>
    have hloyal : Frame.loyal.Allows (unitNamed i name) :=
      Frame.loyal.conduct.holds_unitNamed (loyal_tryName i name)
    exact hloyal.discard s id r h
  | trySymbol i symbol => exact (loyal_of_silent (silent_trySymbol i symbol)).discard s id r h
  | unitWithSymbol i symbol =>
    exact (loyal_of_silent (silent_unitWithSymbol i symbol)).discard s id r h
  | parseUnit o text => exact (loyal_parseUnit o text).discard s id r h
  | newQuantity value unit o =>
    exact ((loyal_resolveRef o unit).bind fun m =>
      loyal_of_silent (Frame.silent_quantity value m)).discard s id r h
  | inquire i q => exact ⟨r, h, rfl⟩
  | convert i q target => exact (loyal_convert i q target).discard s id r h
  | elsewhere f apart => exact ⟨r, (apart s).symm ▸ h, rfl⟩

/-- After a run, a registry has the resolvers that its operations leave. -/
theorem resolvers_play (ops : List Operation) (h : s.registries[id]? = some r) :
    ∃ r', (play ops s).registries[id]? = some r' ∧
      r'.resolvers = ops.foldl (fun rs op => op.resolversAt id rs) r.resolvers := by
  induction ops generalizing s r with
  | nil => exact ⟨r, h, rfl⟩
  | cons op ops ih =>
    obtain ⟨r', hr', hop⟩ := resolvers_perform op h
    obtain ⟨r'', hr'', hops⟩ := ih hr'
    refine ⟨r'', hr'', ?_⟩
    rw [hops, hop]
    rfl

/-! ## The outcome of a look-up -/

/-- Either all resolvers pass, or one is the first that answers. -/
theorem pass_or_answer (name : String) (serial : Nat) (rs : List Resolver) :
    (∀ a ∈ rs, a.reply name = .pass) ∨ ∃ before a after' m, rs = before ++ a :: after' ∧
      (∀ b ∈ before, b.reply name = .pass) ∧ a.answer? name serial = some m := by
  induction rs with
  | nil => exact .inl (by simp)
  | cons a rs ih =>
    cases hreply : a.reply name with
    | unit m => exact .inr ⟨[], a, rs, m, rfl, by simp, by simp [Resolver.answer?, hreply]⟩
    | fresh d =>
      exact .inr ⟨[], a, rs, { d with serial }, rfl, by simp, by simp [Resolver.answer?, hreply]⟩
    | pass =>
      obtain hpass | ⟨before, b, after', m, rfl, hbefore, hb⟩ := ih
      · exact .inl (List.forall_mem_cons.2 ⟨hreply, hpass⟩)
      · exact .inr ⟨a :: before, b, after', m, rfl, List.forall_mem_cons.2 ⟨hreply, hbefore⟩, hb⟩

/-- A name that no unit has is not in the table. -/
theorem byName_eq_none {cs : List Conversion} (hr : r.Recorded cs)
    (h : ∀ u ∈ r.units, u.name ≠ name) : r.byName.get? name = none := by
  rw [hr.byName.get? name, List.filter_eq_nil_iff.2 fun u hu => by simpa using h u hu]
  rfl

/-- A unit of a name that is not in the table is not registered. -/
theorem isRegistered_eq_false {cs : List Conversion} {m : Measure} (hr : r.Recorded cs)
    (hm : m.name = name) (hu : Measure.Coherent (m :: r.units))
    (hget : r.byName.get? name = none) : r.isRegistered m = false := by
  refine Bool.eq_false_iff.2 fun hreg => ?_
  obtain ⟨u, hmem, hsame⟩ := Registry.isRegistered_iff.1 hreg
  obtain rfl : u = m := hu u (List.mem_cons_of_mem m hmem) m List.mem_cons_self hsame
  rw [hr.byName.get? name, List.getLast?_eq_none_iff, List.filter_eq_nil_iff] at hget
  exact hget u hmem (by simpa using hm)

/-- A name that was answered once is found in the table, if the answer has it. -/
theorem run_tryName_again {cs : List Conversion} {m : Measure} (h : s.registries[id]? = some r)
    (hr : r.Recorded cs) (hrun : (tryName id name).run s = .ok (some m) t) (hm : m.name = name)
    (hu : Measure.Coherent (m :: r.units)) :
    (tryName id name).run t = .ok (some m) (after (count (.nameLookup .hit)) t) := by
  have hat := registryAt_of_getElem? h
  refine run_tryName_of_get? ?_
  cases hget : r.byName.get? name with
  | some u =>
    rw [run_tryName_of_get? (hat ▸ hget)] at hrun
    cases hrun
    exact hat ▸ hget
  | none =>
    -- without an answer nothing would have been found
    obtain hpass | ⟨before, a, after', u, hrs, hbefore, ha⟩ :=
      pass_or_answer name s.nextSerial r.resolvers
    · obtain ⟨v, hv, -⟩ := run_tryName_of_no_answer (hat ▸ hget) (hat ▸ hpass)
      rw [hv] at hrun
      cases hrun
    · obtain ⟨v, hv, -, hregistries, -⟩ :=
        run_tryName_of_answer (hat ▸ hget) (hat ▸ hrs) hbefore ha
      rw [hv] at hrun
      cases hrun
      have hafter := getElem?_registries_register h m
      rw [← hregistries] at hafter
      rw [registryAt_of_getElem? hafter, ← hm]
      exact Registry.byName_register (isRegistered_eq_false hr hm hu hget)

/-- The outcomes of looking a name up in a registry of a session. -/
structure NameLookup (s : Session) (id : Nat) (r : Registry) (name : String) : Prop where
  /-- A name of registered units stands for the last of them, and no resolver is asked. -/
  held : (∃ u ∈ r.units, u.name = name) → ∃ m,
    (r.units.filter fun u => u.name = name).getLast? = some m ∧
      (tryName id name).run s = .ok (some m) { s with meters := s.meters.count (.nameLookup .hit) }
  /-- Any other name is put to the resolvers up to the first that answers. Its answer is
  registered behind the units, unless it is one of them, and nothing else is. -/
  answered : (∀ u ∈ r.units, u.name ≠ name) → ∀ before a after' m,
    r.resolvers = before ++ a :: after' → (∀ b ∈ before, b.reply name = .pass) →
    a.answer? name s.nextSerial = some m → ∃ t, (tryName id name).run s = .ok (some m) t ∧
      t.journal = s.journal ++ questions name (before ++ [a]) ∧
      if r.isRegistered m then t.registries = s.registries
      else t.registries = s.registries.set id (r.register m) ∧
        (r.register m).units = r.units ++ [m]
  /-- A name that no resolver answers is unknown, and nothing is registered. -/
  unanswered : (∀ u ∈ r.units, u.name ≠ name) → (∀ a ∈ r.resolvers, a.reply name = .pass) →
    ∃ t, (tryName id name).run s = .ok none t ∧
      (unitNamed id name).run s = .error (.unknownUnit .name name) t ∧
      t.journal = s.journal ++ questions name r.resolvers ∧ t.registries = s.registries
  /-- An answer that has the name is found when the name is looked up again, and no resolver is
  asked. -/
  again : ∀ m t, (tryName id name).run s = .ok (some m) t → m.name = name →
    Measure.Coherent (m :: r.units) →
    (tryName id name).run t = .ok (some m) { t with meters := t.meters.count (.nameLookup .hit) }

/-- Where the tables of a registry are in step, a name is looked up among its units and then asked
of its resolvers. -/
theorem nameLookup_of_recorded {cs : List Conversion} (h : s.registries[id]? = some r)
    (hr : r.Recorded cs) (name : String) : NameLookup s id r name := by
  have hat := registryAt_of_getElem? h
  refine ⟨?_, ?_, ?_, fun m t hrun hm hu => run_tryName_again h hr hrun hm hu⟩
  · rintro ⟨u, hu, hname⟩
    have hmem : u ∈ r.units.filter fun u => u.name = name := List.mem_filter.2 ⟨hu, by simpa⟩
    -- of the units with the name, the one that was registered last is found
    have hm := List.getLast?_eq_some_getLast (List.ne_nil_of_mem hmem)
    refine ⟨_, hm, run_tryName_of_get? ?_⟩
    rw [hat, hr.byName.get? name, hm]
  · intro hname before a after' m hrs hbefore ha
    obtain ⟨t, ht, hjournal, hregistries, -⟩ := run_tryName_of_answer
      (hat ▸ byName_eq_none hr hname) (hat ▸ hrs) hbefore ha
    refine ⟨t, ht, hjournal, ?_⟩
    rw [hregistries, registries_register, hat]
    cases hm : r.isRegistered m with
    | true => rfl
    | false => exact ⟨rfl, Registry.units_register hm⟩
  · intro hname hpass
    obtain ⟨t, ht, hregistries, -, hjournal⟩ :=
      run_tryName_of_no_answer (hat ▸ byName_eq_none hr hname) (hat ▸ hpass)
    refine ⟨t, ht, ?_, hat ▸ hjournal, hregistries⟩
    unfold unitNamed
    rw [run_bind_of_ok ht]
    rfl

/-- Wherever a run of operations has led, a name of a registered unit is found without asking a
resolver, and any other name is put to the resolvers up to the first that answers: `NameLookup`
tells what each look-up leaves. Resolvers are taken to be pure, as `Resolver` says: what one answers
depends on the name only, and it neither fails nor uses the registry that asks it. They stand in the
order in which they were added, each as often as it was; one that is removed goes where it occurs
first. -/
theorem tryName_outcome (f : Facilities) (enabled : Bool) (env : Environment)
    (ops : List Operation) (id : Nat) (r : Registry)
    (h : (play ops (initial f enabled env)).registries[id]? = some r) :
    (∀ name, NameLookup (play ops (initial f enabled env)) id r name) ∧
    (∀ more, ∃ r', (play (ops ++ more) (initial f enabled env)).registries[id]? = some r' ∧
      r'.resolvers = more.foldl (fun rs op => op.resolversAt id rs) r.resolvers) ∧
    ∀ before name rest, ops = before ++ .create name :: rest →
      id = (play before (initial f enabled env)).registries.length →
      r.resolvers = rest.foldl (fun rs op => op.resolversAt id rs) [] := by
  obtain ⟨cs, hr⟩ := exists_recorded_of_play h
  refine ⟨nameLookup_of_recorded h hr, fun more => ?_, fun before name rest hops hid => ?_⟩
  · rw [play_append]
    exact resolvers_play more h
  · -- the registry that is made has no resolvers
    have hnew : (play [.create name] (play before (initial f enabled env))).registries[id]? =
        some (.empty name) := by
      rw [hid]
      exact List.getElem?_concat_length
    obtain ⟨r', hr', hrest⟩ := resolvers_play rest hnew
    rw [← play_append, ← play_append, List.singleton_append, ← hops, h] at hr'
    cases hr'
    exact hrest

/-- A registry with two resolvers is asked for a name that the second of them answers, and asked
again. -/
theorem tryName_outcome_second_answers :
    ∃ m t t', (tryName 0 "bit").run (play [.create "units",
        .addResolver 0 { id := "first", reply := fun _ => .pass },
        .addResolver 0 { id := "second", reply := fun name => .fresh (.declare name "b" 1.0 .one) }]
        (start true [])) = .ok (some m) t ∧
      (tryName 0 "bit").run t = .ok (some m) t' := by
  let first : Resolver := { id := "first", reply := fun _ => .pass }
  let second : Resolver :=
    { id := "second", reply := fun name => .fresh (.declare name "b" 1.0 .one) }
  let ops : List Operation := [.create "units", .addResolver 0 first, .addResolver 0 second]
  obtain ⟨r, hr, hunits, hresolvers⟩ : ∃ r, (play ops (start true [])).registries[0]? = some r ∧
    r.units = [] ∧ r.resolvers = [first, second] := ⟨_, rfl, rfl, rfl⟩
  have hbit := (tryName_outcome .standard true [] ops 0 r hr).1 "bit"
  obtain ⟨t, ht, -, -⟩ :=
    hbit.answered (by simp [hunits]) [first] second [] _ hresolvers (by simp [first]) rfl
  exact ⟨_, t, _, ht, hbit.again _ t ht rfl (by simp [Measure.Coherent, hunits])⟩

end Session

end Metrology
