import Metrology.Proofs.Expression.Compound
import Metrology.Session.Standard

/-!
# The standard registry

The registry that stands in on first use begins with the units of the standard catalogs, each once,
and with the conversions between the temperature scales (`run_standingRegistry_standard`). No name
and no symbol of these units stands for two of them, so the registry spells every unit whose symbol
holds no operator, and every power of such a unit (`spells_standard`). The other symbols, of the
speeds, are quotients of two units that it spells (`spelled_spelling`).
-/

namespace Metrology

open Session Text

/-- The registry with the standard units and the conversions between the temperature scales. -/
def Registry.standard (name : String) : Registry :=
  Catalog.temperatureConversions.foldl addConversion (Catalog.allUnits.foldl register (.empty name))

/-- The registry that is made on first use, by the settings of that moment. -/
def Registry.founded (settings : Settings) : Registry :=
  if settings.standardUnits then standard "default" else .empty "default"

namespace Session

variable {α : Type} {id : Nat} {s : Session}

/-- What fails with no fault succeeds. -/
theorem FailsOnly.exists_run {x : SessionM α} (h : FailsOnly (fun _ => False) x) (s : Session) :
    ∃ a t, x.run s = .ok a t := by
  cases hx : x.run s with
  | ok a t => exact ⟨a, t, rfl⟩
  | error f t => exact (h s f t hx).elim

/-! ## Filling a registry -/

/-- The operation succeeds and changes the registry with the number, and nothing else apart from the
meters. -/
def Writes (x : SessionM Unit) (id : Nat) (f : Registry → Registry) : Prop :=
  ∀ (s : Session) (r : Registry), s.registries[id]? = some r →
    ∃ m, x.run s = .ok () { s with registries := s.registries.set id (f r), meters := m }

theorem set_of_getElem? {r : Registry} (h : s.registries[id]? = some r) :
    s.registries.set id r = s.registries := by
  obtain ⟨hlt, rfl⟩ := List.getElem?_eq_some_iff.1 h
  exact List.set_getElem_self hlt

theorem getElem?_set_of_getElem? {r r' : Registry} (h : s.registries[id]? = some r) :
    (s.registries.set id r')[id]? = some r' :=
  List.getElem?_set_self (List.getElem?_eq_some_iff.1 h).1

/-- What changes nothing leaves the registry as it is. -/
theorem exists_unwritten {r : Registry} (h : s.registries[id]? = some r) :
    ∃ m, s = { s with registries := s.registries.set id r, meters := m } := by
  rw [set_of_getElem? h]
  exact ⟨s.meters, rfl⟩

/-- Two writes to a registry one after another are one write. -/
theorem Writes.bind {x y : SessionM Unit} {f g : Registry → Registry} (hx : Writes x id f)
    (hy : Writes y id g) : Writes (do x; y) id fun r => g (f r) := by
  intro s r hr
  obtain ⟨m, hm⟩ := hx s r hr
  obtain ⟨m', hm'⟩ := hy { s with registries := s.registries.set id (f r), meters := m } (f r)
    (getElem?_set_of_getElem? hr)
  refine ⟨m', (run_bind_of_ok hm _).trans (hm'.trans ?_)⟩
  rw [List.set_set]

/-- Writing depends on what is written only. -/
theorem Writes.congr {x : SessionM Unit} {f g : Registry → Registry} (hx : Writes x id f)
    (h : ∀ r, f r = g r) : Writes x id g := by
  rwa [← funext h]

/-- Writing the elements of a list one after another is one write. -/
theorem Writes.forM {x : α → SessionM Unit} {f : Registry → α → Registry}
    (h : ∀ a, Writes (x a) id (f · a)) (l : List α) :
    Writes (l.forM x) id fun r => l.foldl f r := by
  induction l with
  | nil =>
    intro s r hr
    obtain ⟨m, hm⟩ := exists_unwritten hr
    exact ⟨m, congrArg (EStateM.Result.ok ()) hm⟩
  | cons a l ih => exact (h a).bind ih

/-- Registering writes the registry. -/
theorem writes_register (u : Measure) : Writes (register id u) id (·.register u) := by
  intro s r hr
  rw [run_register, registryAt_of_getElem? hr]
  dsimp only
  by_cases hu : r.isRegistered u = true
  · rw [if_pos hu, Registry.register_of_isRegistered hu]
    obtain ⟨m, hm⟩ := exists_unwritten hr
    exact ⟨m, congrArg (EStateM.Result.ok ()) hm⟩
  · rw [if_neg hu]
    exact ⟨_, rfl⟩

/-- Registering a conversion function writes the registry. -/
theorem writes_addConversion (c : Conversion) :
    Writes (addConversion id c) id (·.addConversion c) := by
  intro s r hr
  have hrun : ∃ m, (addConversion id c).run s = .ok () { s with
      registries := s.registries.set id ((s.registryAt id).addConversion c), meters := m } :=
    ⟨_, rfl⟩
  rwa [registryAt_of_getElem? hr] at hrun

/-- Registering the standard units with a new registry makes the standard one. -/
theorem writes_registerStandard : Writes (registerStandard id) id fun r =>
    Catalog.temperatureConversions.foldl Registry.addConversion
      (Catalog.allUnits.foldl Registry.register r) := by
  have hunits : ∀ r, Catalog.allUnits.foldl Registry.register r =
      Catalog.all.foldl (fun r c => c.units.foldl Registry.register r) r := by
    intro r
    rw [Catalog.allUnits, List.foldl_flatMap]
  have hcatalogs := Writes.forM (x := registerCatalog id)
    (f := fun r c => c.units.foldl Registry.register r)
    (fun c => Writes.forM (f := Registry.register) writes_register c.units) Catalog.all
  refine Writes.congr (hcatalogs.bind
    (Writes.forM (f := Registry.addConversion) writes_addConversion Catalog.temperatureConversions))
    fun r => ?_
  rw [hunits]

/-! ## The standing registry -/

/-- The settings in force: those in use, or else those that the environment gives. -/
def settled (s : Session) : Settings :=
  s.settings.getD (Settings.ofEnvironment s.environment).1

/-- The session in which the settings have been asked for: unless there were any, the environment is
read and its warnings are taken down. -/
def settle (s : Session) : Session :=
  match s.settings with
  | some _ => s
  | none => { s with
      settings := some (Settings.ofEnvironment s.environment).1
      journal := s.journal ++
        ((Settings.ofEnvironment s.environment).2.map Note.warned).toArray }

theorem run_readEnvironment (s : Session) :
    readEnvironment.run s = .ok (Settings.ofEnvironment s.environment).1 { s with
      journal := s.journal ++
        ((Settings.ofEnvironment s.environment).2.map Note.warned).toArray } := by
  have hwarn : ∀ (ws : List String) (s : Session),
      (forIn ws () fun w _ => do
        note (.warned w)
        pure (ForInStep.yield ())).run s =
        .ok () { s with journal := s.journal ++ (ws.map Note.warned).toArray } := by
    intro ws
    -- over the warnings, for a journal that already holds some
    induction ws with
    | nil => exact fun s => by simp
    | cons w ws ih =>
      intro s
      have hnote : (do note (.warned w); pure (ForInStep.yield ()) : SessionM _).run s =
          .ok (ForInStep.yield ()) { s with journal := s.journal.push (.warned w) } := rfl
      rw [List.forIn_cons, run_bind_of_ok hnote]
      exact (ih _).trans (by simp)
  exact run_bind_of_ok (hwarn _ s) _

/-- The current settings are those in force. -/
theorem run_currentSettings (s : Session) : currentSettings.run s = .ok s.settled s.settle := by
  have hget : (get : SessionM Session).run s = .ok s s := rfl
  rw [currentSettings, run_bind_of_ok hget, settled, settle]
  cases hs : s.settings with
  | some settings => rfl
  | none => exact run_bind_of_ok (run_readEnvironment s) _

/-- The settings in force are those that settling keeps. -/
theorem settled_settle (s : Session) : s.settle.settled = s.settled := by
  unfold settle
  split
  · rfl
  · rename_i hs
    rw [settled, settled, hs]
    rfl

/-- Settling leaves the registries. -/
theorem registries_settle (s : Session) : s.settle.registries = s.registries := by
  unfold settle
  split <;> rfl

end Session

/-- The settings in force stay as they are. -/
def Frame.settling : Frame where
  rel s t := t.settled = s.settled
  refl _ := rfl
  trans h₁ h₂ := h₂.trans h₁

namespace Session

variable {s : Session}

theorem settling_currentSettings : Frame.settling.Allows currentSettings := by
  intro s
  rw [after_of_ok (run_currentSettings s)]
  exact settled_settle s

theorem settling_register (id : Nat) (m : Measure) : Frame.settling.Allows (register id m) := by
  intro s
  show (after (register id m) s).settled = s.settled
  unfold after
  rw [run_register]
  dsimp only
  by_cases hm : (s.registryAt id).isRegistered m = true
  · rw [if_pos hm]
  · rw [if_neg hm]
    rfl

/-- Asking for the standing registry leaves the settings in force as they are. -/
theorem settling_standingRegistry : Frame.settling.Allows standingRegistry := by
  have hconversion : ∀ id c, Frame.settling.Allows (addConversion id c) := fun _ _ _ => rfl
  have huse : ∀ id, Frame.settling.Allows (useRegistry id) := fun _ _ => rfl
  exact Frame.allows_standingRegistry (fun _ => rfl) settling_currentSettings
    (fun id => Frame.settling.conduct.holds_registerStandard (settling_register id)
      (hconversion id)) huse

/-- Registering the standard units does not fail. -/
theorem failsOnly_registerStandard {P : Fault → Prop} (id : Nat) :
    FailsOnly P (registerStandard id) := by
  have hconversions : Total (registerTemperatureConversions id) :=
    Total.forM (fun c s => ⟨(), rfl⟩) _
  exact (total_registerCatalogs id Catalog.all).failsOnly.bind fun _ => hconversions.failsOnly

/-- Making the standing registry does not fail. -/
theorem failsOnly_standingRegistry {P : Fault → Prop} : FailsOnly P standingRegistry := by
  refine failsOnly_get.bind fun s => ?_
  split
  · exact failsOnly_pure _
  · have hnew : Total (newRegistry "default") := fun s => ⟨_, rfl⟩
    have hstand : ∀ id, FailsOnly P (do useRegistry id; pure id) := fun id =>
      (failsOnly_modify _).bind fun _ => failsOnly_pure id
    refine hnew.failsOnly.bind fun id => failsOnly_currentSettings.bind fun settings => ?_
    dsimp only
    split
    · exact (failsOnly_registerStandard id).bind fun _ => hstand id
    · exact hstand id

/-- On first use a registry is made as the settings in force say, and stands in. -/
theorem exists_run_standingRegistry (hs : s.standing = none) :
    ∃ m, standingRegistry.run s = .ok s.registries.length { s.settle with
      registries := s.registries ++ [Registry.founded s.settled]
      meters := m
      standing := some s.registries.length } := by
  obtain ⟨t, ht⟩ : ∃ t, t = after (newRegistry "default") s := ⟨_, rfl⟩
  have hsettled : t.settled = s.settled := by rw [ht]; rfl
  -- a new registry does not take part in settling
  have hsettle : t.settle = { s.settle with
      registries := s.registries ++ [.empty "default"] } := by
    rw [ht, settle, settle]
    show (match s.settings with | some _ => _ | none => _) = _
    cases s.settings <;> rfl
  have hnew : t.settle.registries[s.registries.length]? = some (.empty "default") := by
    rw [hsettle]
    exact List.getElem?_concat_length
  rw [run_standingRegistry_of_none hs, furnish, ← ht, run_bind_of_ok (run_currentSettings t),
    hsettled, Registry.founded]
  by_cases hunits : s.settled.standardUnits = true
  · obtain ⟨m, hm⟩ := writes_registerStandard t.settle _ hnew
    refine ⟨m, ?_⟩
    rw [if_pos hunits, if_pos hunits]
    have hset : (s.registries ++ [Registry.empty "default"]).set s.registries.length
        (Registry.standard "default") = s.registries ++ [Registry.standard "default"] := by simp
    refine (run_bind_of_ok hm _).trans ?_
    rw [hsettle, ← hset]
    rfl
  · refine ⟨s.settle.meters, ?_⟩
    rw [if_neg hunits, if_neg hunits, hsettle]
    rfl

/-- On first use, where the settings ask for them, the registry with the standard units stands in.
-/
theorem run_standingRegistry_standard (hs : s.standing = none)
    (hsettled : s.settled.standardUnits = true) :
    ∃ t, standingRegistry.run s = .ok s.registries.length t ∧
      t.Addresses none s.registries.length (Registry.standard "default") := by
  obtain ⟨m, hm⟩ := exists_run_standingRegistry hs
  rw [Registry.founded, if_pos hsettled] at hm
  exact ⟨_, hm, .inr ⟨rfl, rfl⟩, List.getElem?_concat_length⟩

/-- A new session has the standard units at hand, where the environment says nothing. -/
theorem addresses_start (meters : Bool) :
    (after standingRegistry (start meters [])).Addresses none 0 (Registry.standard "default") := by
  obtain ⟨t, ht, hstands⟩ := run_standingRegistry_standard (s := start meters []) rfl rfl
  rw [after_of_ok ht]
  exact hstands

end Session

/-! ## The standard units -/

namespace Catalog

/-- The two parts of a standard unit whose symbol is that of a quotient. -/
def quotient? (m : Measure) : Option (Measure × Measure) :=
  if m.same meterPerSecond then some (meter, second)
  else if m.same kilometerPerHour then some (kilometer, hour)
  else if m.same milePerHour then some (mile, hour)
  else none

/-- The atoms that the symbol of a standard unit is made of. -/
def spelling (m : Measure) : Chain Atom :=
  match quotient? m with
  | some (a, b) => .cons (.unit a) .per (.one (.unit b))
  | none => Atom.single m

/-- A standard unit whose symbol is not that of a quotient. -/
def Elementary (m : Measure) : Prop :=
  m ∈ allUnits ∧ quotient? m = none

/-- No two standard units are the same. -/
theorem pairwise_same : allUnits.Pairwise fun a b => a.same b = false := by
  decide +kernel

/-- No two standard units have one symbol. -/
theorem nodup_symbols : (allUnits.map fun m => m.symbol).Nodup := by
  decide +kernel

/-- A name that is also a symbol is the symbol of the same unit. -/
theorem symbol_of_name :
    ∀ u ∈ allUnits, ∀ m ∈ allUnits, u.name = m.symbol → u.symbol = m.symbol := by
  decide +kernel

/-- No standard unit has a caret in its name or symbol. -/
theorem caret_notMem : ∀ m ∈ allUnits, '^' ∉ m.name.toList ∧ '^' ∉ m.symbol.toList := by
  decide +kernel

/-- A quotient is the quotient of its parts, and both its name and its symbol say so. -/
theorem of_quotient : ∀ m ∈ allUnits, ∀ p ∈ quotient? m,
    m.dimension = p.1.dimension / p.2.dimension ∧
      m.symbol.toList = p.1.symbol.toList ++ '/' :: p.2.symbol.toList ∧ '/' ∈ m.name.toList := by
  decide +kernel

/-- A symbol that is not a quotient is plain text and no number. -/
theorem plain_of_quotient_none : ∀ m ∈ allUnits, quotient? m = none →
    Plain m.symbol.toList ∧ Numeral.literal? m.symbol.toList = none := by
  decide +kernel

variable {m : Measure} {p : Measure × Measure}

/-- The symbol of an elementary unit is read as it was written. -/
theorem Elementary.plain (h : Elementary m) :
    Plain m.symbol.toList ∧ Numeral.literal? m.symbol.toList = none :=
  plain_of_quotient_none m h.1 h.2

/-- The parts of a quotient are elementary. -/
theorem elementary_of_quotient (h : quotient? m = some p) : Elementary p.1 ∧ Elementary p.2 := by
  have hmem : ∀ i : Nat, ∀ u, allUnits[i]? = some u → u ∈ allUnits := fun _ _ =>
    List.mem_of_getElem?
  unfold quotient? at h
  split at h
  · obtain rfl := Option.some.inj h
    exact ⟨⟨hmem 0 _ rfl, rfl⟩, hmem 20 _ rfl, rfl⟩
  · split at h
    · obtain rfl := Option.some.inj h
      exact ⟨⟨hmem 9 _ rfl, rfl⟩, hmem 24 _ rfl, rfl⟩
    · split at h
      · obtain rfl := Option.some.inj h
        exact ⟨⟨hmem 13 _ rfl, rfl⟩, hmem 24 _ rfl, rfl⟩
      · cases h

/-- A standard unit is spelled with elementary ones. -/
theorem elementary_spelling (hm : m ∈ allUnits) :
    ∀ a ∈ (spelling m).items, Elementary a.base := by
  unfold spelling
  cases hq : quotient? m with
  | none =>
    intro a ha
    obtain rfl := List.mem_singleton.1 ha
    exact ⟨hm, hq⟩
  | some p =>
    obtain ⟨hfirst, hsecond⟩ := elementary_of_quotient hq
    intro a ha
    rcases List.mem_cons.1 ha with rfl | ha
    · exact hfirst
    · obtain rfl := List.mem_singleton.1 ha
      exact hsecond

/-- The symbol of a standard unit lists its atoms. -/
theorem spelled_spelling (hm : m ∈ allUnits) :
    m.toDenomination.Spelled ((spelling m).map Atom.text) := by
  refine ⟨?_, fun p hp => ?_⟩
  · unfold spelling
    cases hq : quotient? m with
    | none => simp [Atom.single, Chain.map, Atom.text, Chain.text]
    | some p =>
      refine String.toList_injective ?_
      rw [(of_quotient m hm p hq).2.1, String.toList_ofList]
      rfl
  · rw [Chain.items_map] at hp
    obtain ⟨a, ha, rfl⟩ := List.mem_map.1 hp
    exact Atom.plain_text (elementary_spelling hm a ha).plain.1

end Catalog

/-! ## What the standard registry spells -/

namespace Registry

variable {name : String} {m : Measure} {a : Atom}

/-- Registering conversion functions one after another keeps the tables in step. -/
theorem recorded_foldl_addConversion {r : Registry} {cs : List Conversion} (h : r.Recorded cs)
    (cs' : List Conversion) : (cs'.foldl addConversion r).Recorded (cs ++ cs') := by
  induction cs' generalizing r cs with
  | nil => rwa [List.append_nil]
  | cons c cs' ih =>
    rw [← List.singleton_append, ← List.append_assoc]
    exact ih (h.addConversion c)

/-- Registering units one after another keeps the tables in step. -/
theorem recorded_foldl_register {r : Registry} {cs : List Conversion} (h : r.Recorded cs)
    (ms : List Measure) : (ms.foldl register r).Recorded cs := by
  induction ms generalizing r with
  | nil => exact h
  | cons m ms ih => exact ih (h.register m)

/-- Distinct units that are new are registered in their order. -/
theorem units_foldl_register {r : Registry} {ms : List Measure}
    (h : (r.units ++ ms).Pairwise fun a b => a.same b = false) :
    (ms.foldl register r).units = r.units ++ ms := by
  induction ms generalizing r with
  | nil => rw [List.foldl_nil, List.append_nil]
  | cons m ms ih =>
    have hnew : r.isRegistered m = false := by
      refine Bool.eq_false_iff.2 fun hreg => ?_
      obtain ⟨u, hu, hum⟩ := isRegistered_iff.1 hreg
      rw [(List.pairwise_append.1 h).2.2 u hu m List.mem_cons_self] at hum
      cases hum
    have hunits : (r.register m).units = r.units ++ [m] := units_register hnew
    rw [List.foldl_cons, ih, hunits, List.append_assoc, List.singleton_append]
    rw [hunits, List.append_assoc]
    exact h

/-- The tables of the standard registry are in step. -/
theorem recorded_standard (name : String) :
    (standard name).Recorded Catalog.temperatureConversions :=
  recorded_foldl_addConversion (recorded_foldl_register (recorded_empty name) _) _

/-- Registering conversion functions changes neither the units nor the resolvers. -/
theorem foldl_addConversion (r : Registry) (cs : List Conversion) :
    (cs.foldl addConversion r).units = r.units ∧
      (cs.foldl addConversion r).resolvers = r.resolvers := by
  induction cs generalizing r with
  | nil => exact ⟨rfl, rfl⟩
  | cons c cs ih => exact ih (r.addConversion c)

theorem resolvers_foldl_register (r : Registry) (ms : List Measure) :
    (ms.foldl register r).resolvers = r.resolvers := by
  induction ms generalizing r with
  | nil => rfl
  | cons m ms ih => exact (ih _).trans (r.resolvers_register m)

/-- The standard registry holds the units of the catalogs in their order. -/
theorem units_standard (name : String) : (standard name).units = Catalog.allUnits := by
  have hpairwise := Catalog.pairwise_same
  rw [← Catalog.allUnits.nil_append] at hpairwise
  rw [standard, (foldl_addConversion _ _).1, units_foldl_register hpairwise, units_empty,
    List.nil_append]

/-- The standard registry has no resolvers. -/
theorem resolvers_standard (name : String) : (standard name).resolvers = [] := by
  rw [standard, (foldl_addConversion _ _).2, resolvers_foldl_register, resolvers_empty]

theorem conversions_foldl_register (r : Registry) (ms : List Measure) :
    (ms.foldl register r).conversions = r.conversions := by
  induction ms generalizing r with
  | nil => rfl
  | cons m ms ih =>
    refine (ih _).trans ?_
    unfold register
    split <;> rfl

/-- The standard registry holds the six conversion functions between the temperature scales. -/
theorem conversions_standard (name : String) :
    (standard name).conversions.values = Catalog.temperatureConversions := by
  have hsix : ∀ r : Registry, r.conversions = ∅ →
      (Catalog.temperatureConversions.foldl addConversion r).conversions.values =
        Catalog.temperatureConversions := by
    intro r hr
    show ((((((r.conversions.put _ _).put _ _).put _ _).put _ _).put _ _).put _ _).values = _
    rw [hr]
    rfl
  exact hsix _ (conversions_foldl_register _ _)

/-- What a registry holds that was made on first use: the standard catalogs and the six conversion
functions between the temperature scales where the settings ask for them, and otherwise nothing. -/
structure Stocked (settings : Settings) (r : Registry) : Prop where
  units : r.units = if settings.standardUnits then Catalog.allUnits else []
  conversions : r.conversions.values =
    if settings.standardUnits then Catalog.temperatureConversions else []
  resolvers : r.resolvers = []
  /-- Its tables tell of nothing else. -/
  determined : r.Determined r.conversions.values

/-- A registry that is made on first use is stocked as the settings ask. -/
theorem stocked_founded (settings : Settings) : (founded settings).Stocked settings := by
  unfold founded
  cases hunits : settings.standardUnits with
  | true =>
    refine ⟨?_, ?_, resolvers_standard _, ?_⟩
    · rw [hunits, if_pos rfl, if_pos rfl, units_standard]
    · rw [hunits, if_pos rfl, if_pos rfl, conversions_standard]
    · rw [if_pos rfl, conversions_standard]
      exact (recorded_standard _).determined
  | false =>
    refine ⟨?_, ?_, rfl, (recorded_empty _).determined⟩
    · rw [hunits, if_neg Bool.false_ne_true, if_neg Bool.false_ne_true, units_empty]
    · rw [hunits, if_neg Bool.false_ne_true, if_neg Bool.false_ne_true]
      rfl

/-- A unit that the registry knows by a text is a standard one with this name or symbol. -/
theorem of_known? {text : List Char} (h : (standard name).known? text = some m) :
    m ∈ Catalog.allUnits ∧ (text = m.name.toList ∨ text = m.symbol.toList) := by
  have hdetermined := (recorded_standard name).determined
  rw [known?, Option.or_eq_some_iff, hdetermined.byName, hdetermined.bySymbol, units_standard] at h
  rcases h with h | ⟨-, h⟩
  · obtain ⟨hm, hname⟩ := List.mem_filter.1 (List.mem_of_getLast? h)
    rw [of_decide_eq_true hname, String.toList_ofList]
    exact ⟨hm, .inl rfl⟩
  · obtain ⟨hm, hsymbol⟩ := List.mem_filter.1 (List.mem_of_getLast? h)
    rw [of_decide_eq_true hsymbol, String.toList_ofList]
    exact ⟨hm, .inr rfl⟩

/-- A symbol stands for the only standard unit that has it. -/
theorem bySymbol_standard (hm : m ∈ Catalog.allUnits) :
    (standard name).bySymbol.get? m.symbol = some m := by
  rw [(recorded_standard name).determined.bySymbol, units_standard]
  cases hlast : (Catalog.allUnits.filter fun u => u.symbol = m.symbol).getLast? with
  | none =>
    have hmem : m ∈ Catalog.allUnits.filter fun u => u.symbol = m.symbol :=
      List.mem_filter.2 ⟨hm, decide_eq_true rfl⟩
    rw [List.getLast?_eq_none_iff.1 hlast] at hmem
    cases hmem
  | some u =>
    obtain ⟨hu, hsymbol⟩ := List.mem_filter.1 (List.mem_of_getLast? hlast)
    rw [List.inj_on_of_nodup_map Catalog.nodup_symbols hu hm (of_decide_eq_true hsymbol)]

/-- No other standard unit has a symbol for its name. -/
theorem eq_of_byName (hm : m ∈ Catalog.allUnits) {u : Measure}
    (hu : (standard name).byName.get? m.symbol = some u) : u = m := by
  rw [(recorded_standard name).determined.byName, units_standard] at hu
  obtain ⟨hmem, hname⟩ := List.mem_filter.1 (List.mem_of_getLast? hu)
  exact List.inj_on_of_nodup_map Catalog.nodup_symbols hmem hm
    (Catalog.symbol_of_name u hmem m hm (of_decide_eq_true hname))

/-- The standard registry spells the powers of elementary units. -/
theorem spells_standard (h : Catalog.Elementary a.base) : (standard name).Spells a := by
  have hpass : ∀ text, ∀ b ∈ (standard name).resolvers, b.reply text = .pass := by
    intro text b hb
    rw [resolvers_standard] at hb
    cases hb
  induction a with
  | unit m =>
    exact .unit h.plain.1 h.plain.2 (bySymbol_standard h.1) (fun u hu => eq_of_byName h.1 hu)
      (hpass _)
  | power a n ih =>
    refine .power (ih h) (Option.eq_none_iff_forall_ne_some.2 fun u hu => ?_) (hpass _)
    -- a caret stands in no name and no symbol
    have hcaret : '^' ∈ raised n a.text := by simp [raised]
    obtain ⟨hu, htext⟩ := of_known? hu
    rcases htext with htext | htext
    · exact (Catalog.caret_notMem u hu).1 (htext ▸ hcaret)
    · exact (Catalog.caret_notMem u hu).2 (htext ▸ hcaret)

/-- The standard registry reads each unit back whose symbol is not a quotient. -/
theorem reads_unit (name : String) {i : Nat} (hm : Catalog.allUnits[i]? = some m)
    (hq : Catalog.quotient? m = none) : (standard name).Reads (.atom (.unit m)) :=
  .atom (spells_standard ⟨List.mem_of_getElem? hm, hq⟩)

/-- What a text without an operator stands for in the standard registry is a power, in turn, of an
elementary unit. -/
theorem exists_atom {text : List Char} {u : Derived} (h : Expression.Stands (standard name) text u)
    (hop : ∀ c ∈ text, Join.isOperator c = false) :
    ∃ a : Atom, Catalog.Elementary a.base ∧ a.derived = u := by
  induction h with
  | @known text m h =>
    obtain ⟨hm, htext⟩ := of_known? h
    refine ⟨.unit m, ⟨hm, ?_⟩, rfl⟩
    by_contra hq
    obtain ⟨p, hp⟩ := Option.ne_none_iff_exists'.1 hq
    obtain ⟨-, hsymbol, hname⟩ := Catalog.of_quotient m hm p hp
    -- a unit with a quotient for its symbol has an operator in its name, too
    have hslash : '/' ∈ text := by
      rcases htext with rfl | rfl
      · exact hname
      · rw [hsymbol]
        exact List.mem_append_right _ List.mem_cons_self
    cases hop _ hslash
  | power _ hs _ ih =>
    obtain ⟨digits, rfl, -, -, hn⟩ := hs
    obtain ⟨a, ha, rfl⟩ := ih fun c hc => hop c (List.mem_append_left _ hc)
    exact ⟨.power a ⟨_, isWritable_of_whole? hn⟩, ha, rfl⟩

end Registry

end Metrology
