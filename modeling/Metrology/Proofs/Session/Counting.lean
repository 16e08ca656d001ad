import Metrology.Proofs.Session.Conversion
import Metrology.Proofs.Session.Faults
import Metrology.Proofs.Session.Lookup
import Metrology.Proofs.Session.Reading
import Metrology.Session.Standard

/-!
# What is counted

The meters count every event once. `Meters.Tallied events m m'` says that between two readings the
listed events were counted and no others; most operations count nothing (`Frame.uncounted`), and
what reads an expression counts look-ups only (`Frame.seeking`). A conversion is counted by the
path that it took, one look-up by its outcome, and a text by whether it could be read. A text of a
quantity counts the text of its unit as well. `Session.metered_of_enabled` says this of every call,
beside when the calls succeed.

Conversion functions that have quantities converted in turn would count these conversions too, so
the functions are taken to work alone here (`Routine.Alone`).
-/

namespace Metrology

open Session

/-! ## Readings of the meters -/

namespace Meters

variable {m m' m'' : Meters} {es es' : List Event}

/-- Between the readings every event was counted as often as it is listed. -/
structure Tallied (events : List Event) (m m' : Meters) : Prop where
  enabled : m'.enabled = true
  tally : ∀ e, m'.tally e = m.tally e + events.count e

/-- No event is counted as nothing. -/
theorem tallied_nil (h : m.enabled = true) : Tallied [] m m :=
  ⟨h, fun _ => rfl⟩

/-- Events after others are counted on. -/
theorem Tallied.append (h : Tallied es m m') (h' : Tallied es' m' m'') :
    Tallied (es ++ es') m m'' := by
  refine ⟨h'.enabled, fun e => ?_⟩
  rw [h'.tally, h.tally, List.count_append, Nat.add_assoc]

/-- Counting an event moves its counter by one, and no other counter. -/
theorem tallied_count (h : m.enabled = true) (e : Event) : Tallied [e] m (m.count e) := by
  have hcount : m.count e = { m with events := m.events.update e 0 (· + 1) } := if_pos h
  refine ⟨by rw [hcount, h], fun e' => ?_⟩
  rw [hcount, tally, tally, Table.update, Table.get?_put, List.count_singleton]
  by_cases he : e' = e
  · simp [he]
  · simp [he, Ne.symm he]

/-- Readings that differ in the gauges only agree in what they count. -/
theorem Tallied.of_events_eq (h : Tallied es m m') (henabled : m''.enabled = m'.enabled)
    (hevents : m''.events = m'.events) : Tallied es m m'' := by
  refine ⟨henabled.trans h.enabled, fun e => ?_⟩
  have hsame : m''.tally e = m'.tally e := by simp only [Meters.tally, hevents]
  rw [hsame, h.tally e]

end Meters

/-! ## Operations that count nothing -/

/-- No event is counted; the gauges may move. -/
def Frame.uncounted : Frame where
  rel s t := t.meters.enabled = s.meters.enabled ∧ t.meters.events = s.meters.events
  refl _ := ⟨rfl, rfl⟩
  trans h h' := ⟨h'.1.trans h.1, h'.2.trans h.2⟩

namespace Session

theorem uncounted_meter {f : Meters → Meters} (henabled : ∀ m, (f m).enabled = m.enabled)
    (hevents : ∀ m, (f m).events = m.events) : Frame.uncounted.Allows (meter f) :=
  fun s => ⟨henabled s.meters, hevents s.meters⟩

theorem uncounted_note (n : Note) : Frame.uncounted.Allows (note n) := fun _ => ⟨rfl, rfl⟩

theorem uncounted_newSerial : Frame.uncounted.Allows newSerial := fun _ => ⟨rfl, rfl⟩

theorem uncounted_currentSettings : Frame.uncounted.Allows currentSettings :=
  Frame.allows_currentSettings uncounted_note fun _ _ => ⟨rfl, rfl⟩

theorem uncounted_register (id : Nat) (m : Measure) : Frame.uncounted.Allows (register id m) := by
  intro s
  show (after (register id m) s).meters.enabled = _ ∧ (after (register id m) s).meters.events = _
  rw [meters_register]
  unfold Meters.showUnits
  split
  · exact ⟨rfl, rfl⟩
  · split <;> exact ⟨rfl, rfl⟩

theorem uncounted_addConversion (id : Nat) (c : Conversion) :
    Frame.uncounted.Allows (addConversion id c) := by
  refine (Frame.uncounted.allows_registry id).bind fun r => ?_
  have hput : ∀ r, Frame.uncounted.Allows (putRegistry id r) := fun _ _ => ⟨rfl, rfl⟩
  refine (hput _).bind fun _ => uncounted_meter (fun m => ?_) fun m => ?_
  · unfold Meters.showFunctions
    split <;> rfl
  · unfold Meters.showFunctions
    split <;> rfl

theorem uncounted_standingRegistry : Frame.uncounted.Allows standingRegistry :=
  Frame.allows_standingRegistry (fun _ => ⟨rfl, rfl⟩) uncounted_currentSettings
    (fun id => Frame.uncounted.conduct.holds_registerStandard (uncounted_register id)
      (uncounted_addConversion id)) fun _ _ => ⟨rfl, rfl⟩

theorem uncounted_readNumber (text : String) (locale : Option String) :
    Frame.uncounted.Allows (readNumber text locale) :=
  Frame.uncounted.conduct.holds_readNumber Frame.uncounted.allows_currentFacilities
    uncounted_currentSettings text locale

end Session

/-! ## Looking units up -/

/-- A search for a unit. -/
def Event.IsLookup : Event → Prop
  | .nameLookup _ => True
  | .symbolLookup _ => True
  | _ => False

/-- Where the meters are on, searches for units are counted and nothing else is. -/
def Frame.seeking : Frame where
  rel s t := s.meters.enabled = true →
    ∃ looks, (∀ e ∈ looks, e.IsLookup) ∧ Meters.Tallied looks s.meters t.meters
  refl _ h := ⟨[], nofun, Meters.tallied_nil h⟩
  trans := by
    intro s t u h h' hs
    obtain ⟨looks, hlooks, htally⟩ := h hs
    obtain ⟨looks', hlooks', htally'⟩ := h' htally.enabled
    exact ⟨looks ++ looks', List.forall_mem_append.2 ⟨hlooks, hlooks'⟩, htally.append htally'⟩

namespace Session

variable {α : Type} {s t : Session}

/-- What counts nothing counts look-ups at most. -/
theorem seeking_of_uncounted {x : SessionM α} (h : Frame.uncounted.Allows x) :
    Frame.seeking.Allows x := fun s hs =>
  ⟨[], nofun, (Meters.tallied_nil hs).of_events_eq (h s).1 (h s).2⟩

theorem seeking_count {e : Event} (he : e.IsLookup) : Frame.seeking.Allows (count e) :=
  fun _ hs => ⟨[e], List.forall_mem_singleton.2 he, Meters.tallied_count hs e⟩

theorem seeking_tryName (id : Nat) (name : String) : Frame.seeking.Allows (tryName id name) :=
  Frame.seeking.conduct.holds_tryName (Frame.seeking.allows_registry id)
    (fun name rs => seeking_of_uncounted <| Frame.uncounted.conduct.holds_consultAll
      (fun _ _ => Frame.uncounted.conduct.holds_consult (uncounted_note _)
        (Frame.uncounted.conduct.holds_issue uncounted_newSerial)) name rs)
    (fun m => seeking_of_uncounted (uncounted_register id m)) (fun _ => seeking_count trivial) name

theorem seeking_trySymbol (id : Nat) (symbol : String) :
    Frame.seeking.Allows (trySymbol id symbol) :=
  Frame.seeking.conduct.holds_trySymbol (Frame.seeking.allows_registry id)
    (fun _ => seeking_count trivial) symbol

theorem seeking_evaluate (o : Option Nat) (text : String) :
    Frame.seeking.Allows (evaluate o text) :=
  Frame.seeking.conduct.holds_evaluate seeking_tryName seeking_trySymbol
    (seeking_of_uncounted (Frame.uncounted.conduct.holds_registryOr
      uncounted_standingRegistry o)) text

/-- How looking a name up ends: the table has it, or a resolver answers it, or it is unknown. -/
def nameOutcome (r : Registry) (name : String) (answer : Option Measure) : Outcome :=
  if (r.byName.get? name).isSome then .hit else if answer.isSome then .resolver else .miss

/-- A look-up by name never fails and is counted once, by its outcome. -/
theorem tallied_tryName (hs : s.meters.enabled = true) (id : Nat) (name : String) :
    ∃ answer t, (tryName id name).run s = .ok answer t ∧
      Meters.Tallied [.nameLookup (nameOutcome (s.registryAt id) name answer)]
        s.meters t.meters := by
  unfold nameOutcome
  cases hget : (s.registryAt id).byName.get? name with
  | some m => exact ⟨some m, _, run_tryName_of_get? hget, Meters.tallied_count hs _⟩
  | none =>
    obtain hpass | ⟨before, a, after', m, hrs, hbefore, ha⟩ :=
      pass_or_answer name s.nextSerial (s.registryAt id).resolvers
    · obtain ⟨t, ht, -, hmeters, -⟩ := run_tryName_of_no_answer hget hpass
      refine ⟨none, t, ht, ?_⟩
      rw [hmeters]
      exact Meters.tallied_count hs _
    · obtain ⟨t, ht, -, -, hmeters⟩ := run_tryName_of_answer hget hrs hbefore ha
      refine ⟨some m, t, ht, ?_⟩
      obtain ⟨henabled, hevents⟩ := uncounted_register id m s
      have hregister := (Meters.tallied_nil hs).of_events_eq henabled hevents
      rw [hmeters]
      exact hregister.append (Meters.tallied_count hregister.enabled _)

/-- A look-up by symbol never fails and is counted once, by its outcome. -/
theorem tallied_trySymbol (hs : s.meters.enabled = true) (id : Nat) (symbol : String) :
    ∃ t, (trySymbol id symbol).run s = .ok ((s.registryAt id).bySymbol.get? symbol) t ∧
      Meters.Tallied
        [.symbolLookup (if ((s.registryAt id).bySymbol.get? symbol).isSome then .hit else .miss)]
        s.meters t.meters :=
  ⟨_, rfl, Meters.tallied_count hs _⟩

end Session

/-! ## Converting -/

/-- The routine answers by itself: it has no quantity converted and looks no unit up. -/
def Routine.Alone : Routine → Prop
  | .answer _ (.name _) => False
  | .convert .. => False
  | _ => True

/-- The conversion functions of the registry answer by themselves. -/
def Registry.FunctionsAlone (r : Registry) : Prop :=
  ∀ c ∈ r.conversions.values, ∀ q, (c.apply q).Alone

/-- The path that the conversion of a quantity to a unit takes. -/
def Quantity.path (q : Quantity) (v : Measure) : Path :=
  if q.unit.same v then .identity
  else if q.unit.compatible v.toDenomination then .linear
  else .function

/-- Whether a fault is that no conversion leads from one unit to another. -/
def Fault.isNotConvertible : Fault → Bool
  | .notConvertible .. => true
  | _ => false

/-- With the registries as given, nothing is registered and nothing is counted, and the journal
only grows. -/
def Frame.unmetered (rs : List Registry) : Frame where
  rel s t := s.registries = rs → t.registries = rs ∧ t.meters = s.meters ∧
    ∃ notes, t.journal = s.journal ++ notes
  refl _ h := ⟨h, rfl, #[], by simp⟩
  trans := by
    intro s t u h h' hs
    obtain ⟨ht, hmeters, notes, hjournal⟩ := h hs
    obtain ⟨hu, hmeters', notes', hjournal'⟩ := h' ht
    refine ⟨hu, hmeters'.trans hmeters, notes ++ notes', ?_⟩
    rw [hjournal', hjournal, Array.append_assoc]

namespace Session

variable {s t : Session} {id depth : Nat} {q r : Quantity} {v : Measure} {f : Fault}
  {rs : List Registry}

theorem unmetered_note (n : Note) : (Frame.unmetered rs).Allows (note n) :=
  fun _ h => ⟨h, rfl, #[n], by simp [after, note]⟩

theorem unmetered_quantity (value : Float) (unit : Measure) :
    (Frame.unmetered rs).Allows (quantity value unit) :=
  (Frame.unmetered rs).conduct.holds_quantity
    (fun _ h => ⟨h, rfl, #[], Array.append_empty.symm⟩) value unit

/-- A routine that answers by itself does so whatever conversions it could make. -/
theorem unmetered_run {ρ : Routine} (h : ρ.Alone)
    (convert : Quantity → Measure → SessionM Quantity) :
    (Frame.unmetered rs).Allows (run convert ρ) := by
  cases ρ with
  | answer value unit =>
    cases unit with
    | unit m => exact unmetered_quantity value m
    | name text => exact h.elim
    | other kind => exact Frame.allows_throw _
  | give q => exact Frame.allows_pure q
  | fail fault => exact Frame.allows_throw fault
  | convert q target next => exact h.elim

/-- What happens on the way of a conversion is not counted. -/
theorem unmetered_convertWithin (halone : (s.registryAt id).FunctionsAlone) (depth : Nat)
    (q : Quantity) (v : Measure) :
    (Frame.unmetered s.registries).Allows (convertWithin id depth q v) := by
  refine (Frame.unmetered s.registries).conduct.holds_convertWithin
    ((Frame.unmetered _).allows_registry id) unmetered_quantity (fun _ _ _ => unmetered_note _)
    (fun t => ?_) depth q v
  by_cases ht : t.registries = s.registries
  · refine .inr fun c hc convert _ a => unmetered_run (halone c ?_ a) _
    rw [← registryAt_congr ht]
    exact hc
  · exact .inl fun _ hu => absurd hu ht

/-- A conversion that succeeds took its path. On that of a function it converted the quantity to the
unit that the function takes, applied the function and converted its answer to the target. -/
theorem eq_path_of_run_convertWithin {path : Path}
    (h : (convertWithin id depth q v).run s = .ok (r, path) t) :
    path = q.path v ∧ if path = .function then ∃ depth' c argument answer t₁ t₂,
        (s.registryAt id).conversion? q.unit v = some c ∧
        after (convertWithin id depth' q c.source) s = t₁ ∧
        (apply (fun q v => counted (convertWithin id depth' q v)) c argument).run t₁ =
          .ok answer t₂ ∧
        after (convertWithin id depth' answer v) t₂ = t
      else t.journal = s.journal := by
  cases depth with
  | zero => cases h
  | succ depth =>
    unfold convertWithin at h
    unfold Quantity.path
    split at h
    · cases h
      rw [if_pos ‹_›]
      exact ⟨rfl, rfl⟩
    · rw [if_neg ‹_›]
      split at h
      · cases h
        rw [if_pos ‹_›]
        exact ⟨rfl, rfl⟩
      · rw [if_neg ‹_›]
        rw [run_bind_of_ok (run_registry id s)] at h
        split at h
        · cases h
        · rename_i c hc
          -- to the unit that the function takes, through the function, and to the target
          obtain ⟨⟨argument, p⟩, t₁, hargument, h₁⟩ := run_eq_ok_of_bind h
          obtain ⟨answer, t₂, hanswer, h₂⟩ := run_eq_ok_of_bind h₁
          obtain ⟨⟨result, p'⟩, t₃, hresult, h₃⟩ := run_eq_ok_of_bind h₂
          cases h₃
          exact ⟨rfl, depth, c, argument, answer, t₁, t₂, hc, after_of_ok hargument, hanswer,
            after_of_ok hresult⟩

/-- A conversion that fails is counted if it fails because no conversion was found. -/
theorem run_counted_of_error {x : SessionM (Quantity × Path)} (h : x.run s = .error f t) :
    (counted x).run s =
      .error f (if f.isNotConvertible then after (count (.conversion .none)) t else t) := by
  unfold counted
  rw [run_tryCatch, run_bind_of_error h]
  cases f <;> rfl

section

variable (hs : s.meters.enabled = true) (halone : (s.registryAt id).FunctionsAlone)
include halone

/-- On the path of a function, the journal tells that the function for the two dimensions was
called. -/
theorem applied_of_run_convertWithin
    (h : (convertWithin id depth q v).run s = .ok (r, .function) t) :
    ∃ c value unit notes, (s.registryAt id).conversion? q.unit v = some c ∧
      t.journal = s.journal ++ notes ∧ .applied c.label value unit ∈ notes := by
  obtain ⟨depth', c, argument, answer, t₁, t₂, hc, h₁, h₂, h₃⟩ :=
    (eq_path_of_run_convertWithin h).2
  obtain ⟨hregistries₁, -, notes₁, hjournal₁⟩ :=
    unmetered_convertWithin halone depth' q c.source s rfl
  rw [h₁] at hregistries₁ hjournal₁
  -- the call is noted, and the function itself may write more
  have happly : (Frame.unmetered s.registries).rel (after (note (.applied c.label argument.value
      argument.unit.name)) t₁) t₂ := by
    rw [← after_of_ok h₂]
    exact unmetered_run (halone c (Table.mem_values_of_get? hc) argument) _ _
  obtain ⟨hregistries₂, -, notes₂, hjournal₂⟩ := happly hregistries₁
  have halone₂ : (t₂.registryAt id).FunctionsAlone := by
    rw [registryAt_congr hregistries₂]
    exact halone
  obtain ⟨-, -, notes₃, hjournal₃⟩ := unmetered_convertWithin halone₂ depth' answer v t₂ rfl
  rw [h₃] at hjournal₃
  refine ⟨c, argument.value, argument.unit.name, notes₁ ++
    #[.applied c.label argument.value argument.unit.name] ++ notes₂ ++ notes₃, hc, ?_, by simp⟩
  rw [hjournal₃, hjournal₂]
  simp [after, note, hjournal₁]

include hs

/-- A conversion that succeeds is counted once, by its path. -/
theorem tallied_convert_of_ok (h : (convert id q v).run s = .ok r t) :
    Meters.Tallied [.conversion (q.path v)] s.meters t.meters ∧
      if q.path v = .function then ∃ c value unit notes,
        (s.registryAt id).conversion? q.unit v = some c ∧
          t.journal = s.journal ++ notes ∧ .applied c.label value unit ∈ notes
      else t.journal = s.journal := by
  rw [run_convert] at h
  cases hx : (convertWithin id s.facilities.deepest q v).run s with
  | error e u =>
    rw [run_counted_of_error hx] at h
    cases h
  | ok a u =>
    obtain ⟨r', path⟩ := a
    rw [run_counted_of_ok hx] at h
    cases h
    -- the conversion itself counts nothing; only the frame around it does
    obtain ⟨-, hmeters, -⟩ := unmetered_convertWithin halone s.facilities.deepest q v s rfl
    rw [after_of_ok hx] at hmeters
    obtain ⟨rfl, htaken⟩ := eq_path_of_run_convertWithin hx
    refine ⟨?_, ?_⟩
    · show Meters.Tallied _ _ (u.meters.count _)
      rw [hmeters]
      exact Meters.tallied_count hs _
    · split
      · rename_i hpath
        rw [hpath] at hx
        have happlied := applied_of_run_convertWithin halone hx
        exact happlied
      · rwa [if_neg ‹_›] at htaken

/-- A failing conversion is counted where it fails for want of a way. -/
theorem tallied_convert_of_error (h : (convert id q v).run s = .error f t) :
    Meters.Tallied (if f.isNotConvertible then [.conversion .none] else []) s.meters t.meters := by
  rw [run_convert] at h
  cases hx : (convertWithin id s.facilities.deepest q v).run s with
  | ok a u =>
    rw [run_counted_of_ok hx] at h
    cases h
  | error e u =>
    rw [run_counted_of_error hx] at h
    cases h
    obtain ⟨-, hmeters, -⟩ := unmetered_convertWithin halone s.facilities.deepest q v s rfl
    rw [after_of_error hx] at hmeters
    split
    · show Meters.Tallied _ _ (u.meters.count _)
      rw [hmeters]
      exact Meters.tallied_count hs _
    · rw [hmeters]
      exact Meters.tallied_nil hs

end

/-! ## Reading texts -/

variable {α : Type} {es : List Event}

/-- A reading that succeeds is counted behind what the reading itself counts. -/
theorem tallied_countedParse_of_ok {x : SessionM α} {a : α} (hx : x.run s = .ok a t)
    (h : Meters.Tallied es s.meters t.meters) (kind : ParseKind) (isAboutText : Fault → Bool) :
    ∃ u, (countedParse kind isAboutText x).run s = .ok a u ∧
      Meters.Tallied (es ++ [.parse kind true]) s.meters u.meters :=
  ⟨_, run_countedParse_of_ok hx kind isAboutText, h.append (Meters.tallied_count h.enabled _)⟩

/-- So is one that fails for a fault that is about the text; any other fault is not counted. -/
theorem tallied_countedParse_of_error {x : SessionM α} (hx : x.run s = .error f t)
    (h : Meters.Tallied es s.meters t.meters) (kind : ParseKind) (isAboutText : Fault → Bool) :
    ∃ u, (countedParse kind isAboutText x).run s = .error f u ∧
      Meters.Tallied (es ++ if isAboutText f then [.parse kind false] else [])
        s.meters u.meters := by
  cases hf : isAboutText f with
  | true =>
    exact ⟨_, run_countedParse_of_error hx kind isAboutText hf,
      h.append (Meters.tallied_count h.enabled _)⟩
  | false =>
    refine ⟨t, run_countedParse_of_not_about hx kind isAboutText hf, ?_⟩
    rw [if_neg nofun, List.append_nil]
    exact h

/-- Nothing is counted by an operation that counts nothing. -/
theorem tallied_of_uncounted {x : SessionM α} (hx : Frame.uncounted.Allows x)
    (h : Meters.Tallied es s.meters t.meters) : Meters.Tallied es s.meters (after x t).meters :=
  h.of_events_eq (hx t).1 (hx t).2

/-- From one session to the other, look-ups are counted and behind them the given events. -/
def Sought (events : List Event) (s t : Session) : Prop :=
  ∃ looks, (∀ e ∈ looks, e.IsLookup) ∧ Meters.Tallied (looks ++ events) s.meters t.meters

/-- A unit expression that is read counts that it was read, besides look-ups. -/
theorem sought_parseUnit_of_ok (hs : s.meters.enabled = true) {o : Option Nat} {text : String}
    (htext : text ≠ "") {u : Derived} (hu : (evaluate o text).run s = .ok u t) :
    ∃ m v, (parseUnit o text).run s = .ok m v ∧ Sought [.parse .unit true] s v := by
  obtain ⟨looks, hlooks, hevaluate⟩ := seeking_evaluate o text s hs
  rw [after_of_ok hu] at hevaluate
  obtain ⟨w, hw, hparsed⟩ := tallied_countedParse_of_ok hu hevaluate .unit aboutExpression
  obtain ⟨m, v, hm, -⟩ := run_realize_beside u w
  -- issuing the unit behind the reading counts nothing
  have hv :=
    tallied_of_uncounted (Frame.uncounted.conduct.holds_realize uncounted_newSerial u) hparsed
  rw [after_of_ok hm] at hv
  rw [parseUnit_of_ne htext, run_bind_of_ok hw]
  exact ⟨m, v, hm, looks, hlooks, hv⟩

/-- One that is not read counts that it was not: every fault is about one of its terms. -/
theorem sought_parseUnit_of_error (hs : s.meters.enabled = true) {o : Option Nat} {text : String}
    (htext : text ≠ "") (hf : (evaluate o text).run s = .error f t) :
    ∃ v, (parseUnit o text).run s = .error f v ∧ aboutExpression f = true ∧
      Sought [.parse .unit false] s v := by
  obtain ⟨looks, hlooks, hevaluate⟩ := seeking_evaluate o text s hs
  rw [after_of_error hf] at hevaluate
  obtain ⟨v, hv, hparsed⟩ := tallied_countedParse_of_error hf hevaluate .unit aboutExpression
  have hrun : (parseUnit o text).run s = .error f v := by
    rw [parseUnit_of_ne htext, run_bind_of_error hv]
  have habout := failsOnly_parseUnit o text s f v hrun
  rw [if_pos habout] at hparsed
  exact ⟨v, hrun, habout, looks, hlooks, hparsed⟩

/-- Reading a unit expression that is not empty succeeds or reports one of its terms, and is counted
once as the one or the other, besides look-ups. -/
theorem sought_parseUnit (hs : s.meters.enabled = true) (o : Option Nat) {text : String}
    (htext : text ≠ "") :
    (∃ m t, (parseUnit o text).run s = .ok m t ∧ Sought [.parse .unit true] s t) ∨
    ∃ f t, (parseUnit o text).run s = .error f t ∧ aboutExpression f = true ∧
      Sought [.parse .unit false] s t := by
  cases h : (evaluate o text).run s with
  | ok u t => exact .inl (sought_parseUnit_of_ok hs htext h)
  | error f t =>
    obtain ⟨v, hv⟩ := sought_parseUnit_of_error hs htext h
    exact .inr ⟨f, v, hv⟩

/-- The reading of a unit expression that may be empty, of which nothing is counted then. -/
theorem sought_unitText (hs : s.meters.enabled = true) (o : Option Nat) (text : String) :
    (∀ m t, (parseUnit o text).run s = .ok m t →
      Sought (if text = "" then [] else [.parse .unit true]) s t) ∧
    ∀ f t, (parseUnit o text).run s = .error f t →
      aboutExpression f = true ∧ Sought [.parse .unit false] s t := by
  by_cases htext : text = ""
  · subst htext
    refine ⟨fun m t h => ?_, fun f t h => ?_⟩
    · cases h
      exact ⟨[], nofun, Meters.tallied_nil hs⟩
    · cases h
  · rw [if_neg htext]
    rcases sought_parseUnit hs o htext with ⟨m, t, hrun, hsought⟩ | ⟨f, t, hrun, habout, hsought⟩
    · refine ⟨fun m' t' h => ?_, fun f' t' h => ?_⟩
      · rw [hrun] at h
        cases h
        exact hsought
      · rw [hrun] at h
        cases h
    · refine ⟨fun m' t' h => ?_, fun f' t' h => ?_⟩
      · rw [hrun] at h
        cases h
      · rw [hrun] at h
        cases h
        exact ⟨habout, hsought⟩

/-! ## Reading quantities -/

variable {text : String} {locale : Option String} {o : Option Nat} {x : Float} {m : Measure}
  {u : Session}

/-- Reading a number counts nothing. -/
theorem tallied_readNumber (hs : s.meters.enabled = true) (number : String)
    (locale : Option String) :
    Meters.Tallied [] s.meters (after (readNumber number locale) s).meters :=
  tallied_of_uncounted (uncounted_readNumber number locale) (Meters.tallied_nil hs)

/-- Where the number is not read, the unit is not looked at. -/
theorem tallied_parseQuantity_of_number (hs : s.meters.enabled = true) (htext : text ≠ "")
    (hnumber : (readNumber (numberText text) locale).run s = .error f t) :
    ∃ v, (parseQuantity text locale o).run s = .error f v ∧
      Meters.Tallied (if aboutQuantity f then [.parse .amount false] else [])
        s.meters v.meters := by
  have hvalue := tallied_readNumber hs (numberText text) locale
  rw [after_of_error hnumber] at hvalue
  have hread : (readParts (numberText text) (unitText text) (turnsSign text) locale o).run s =
      .error f t := run_bind_of_error hnumber _
  obtain ⟨v, hv, hparsed⟩ := tallied_countedParse_of_error hread hvalue .amount aboutQuantity
  refine ⟨v, ?_, hparsed⟩
  rw [parseQuantity_of_ne htext, run_map, hv]

theorem aboutQuantity_of_aboutExpression (h : aboutExpression f = true) :
    aboutQuantity f = true := by
  cases f <;> first | rfl | cases h

/-- A unit that is not read makes the quantity one that is not read. -/
theorem sought_parseQuantity_of_unit (hs : s.meters.enabled = true) (htext : text ≠ "")
    (hnumber : (readNumber (numberText text) locale).run s = .ok x t)
    (hunit : (parseUnit o (unitText text)).run t = .error f u) :
    ∃ v, (parseQuantity text locale o).run s = .error f v ∧
      Sought [.parse .unit false, .parse .amount false] s v := by
  have hvalue := tallied_readNumber hs (numberText text) locale
  rw [after_of_ok hnumber] at hvalue
  obtain ⟨habout, looks, hlooks, hsought⟩ := (sought_unitText hvalue.enabled o _).2 f u hunit
  have hread : (readParts (numberText text) (unitText text) (turnsSign text) locale o).run s =
      .error f u := (run_bind_of_ok hnumber _).trans (run_bind_of_error hunit _)
  obtain ⟨v, hv, hparsed⟩ := tallied_countedParse_of_error hread (hvalue.append hsought) .amount
    aboutQuantity
  rw [if_pos (aboutQuantity_of_aboutExpression habout), List.nil_append, List.append_assoc]
    at hparsed
  refine ⟨v, ?_, looks, hlooks, hparsed⟩
  rw [parseQuantity_of_ne htext, run_map, hv]

/-- Where number and unit are read, the quantity is. -/
theorem sought_parseQuantity_of_ok (hs : s.meters.enabled = true) (htext : text ≠ "")
    (hnumber : (readNumber (numberText text) locale).run s = .ok x t)
    (hunit : (parseUnit o (unitText text)).run t = .ok m u) :
    ∃ q v, (parseQuantity text locale o).run s = .ok (some q) v ∧ q.unit = m ∧
      Sought ((if unitText text = "" then [] else [.parse .unit true]) ++ [.parse .amount true])
        s v := by
  have hvalue := tallied_readNumber hs (numberText text) locale
  rw [after_of_ok hnumber] at hvalue
  obtain ⟨looks, hlooks, hsought⟩ := (sought_unitText hvalue.enabled o _).1 m u hunit
  -- number and unit are put together without counting
  obtain ⟨q, w, hq, hm, hw⟩ : ∃ q w, (readParts (numberText text) (unitText text) (turnsSign text)
      locale o).run s = .ok q w ∧ q.unit = m ∧ w.meters = u.meters :=
    ⟨_, _, (run_bind_of_ok hnumber _).trans (run_bind_of_ok hunit _), rfl, rfl⟩
  obtain ⟨v, hv, hparsed⟩ := tallied_countedParse_of_ok hq (hw ▸ hvalue.append hsought) .amount
    aboutQuantity
  rw [List.nil_append, List.append_assoc] at hparsed
  refine ⟨q, v, ?_, hm, looks, hlooks, hparsed⟩
  rw [parseQuantity_of_ne htext, run_map, hv]

/-! ## The counters of a session -/

/-- What the calls of a session move the counters by. -/
structure Metered (s : Session) : Prop where
  /-- A quantity that has the target unit stays itself, and this is counted as such. -/
  identical : ∀ id q v, q.unit.same v = true → ∃ t, (convert id q v).run s = .ok q t ∧
    Meters.Tallied [.conversion .identity] s.meters t.meters ∧ t.journal = s.journal
  /-- Between two units of one dimension the value is rescaled, and no function is called. -/
  rescaled : ∀ id q v, q.unit.same v = false → q.unit.compatible v.toDenomination = true →
    ∃ t, (convert id q v).run s = .ok ⟨q.unit.rescale v q.value, v, s.nextSerial⟩ t ∧
      Meters.Tallied [.conversion .linear] s.meters t.meters ∧ t.journal = s.journal
  /-- Between two dimensions with a function that answers, the function is called once. The legs of
  the conversion to and from the function are not counted. -/
  applied : ∀ id q v c, q.unit.same v = false → q.unit.compatible v.toDenomination = false →
    (s.registryAt id).FunctionsAlone → (s.registryAt id).conversion? q.unit v = some c →
    c.route = (q.unit.dimension, v.dimension) → (q.unit.same c.source = true → q.unit = c.source) →
    c.Delivers id s → ∃ r t, (convert id q v).run s = .ok r t ∧ r.unit.same v = true ∧
      AppliedOnce id c q v s r t ∧ Meters.Tallied [.conversion .function] s.meters t.meters
  /-- Between two dimensions without a function, no conversion is found. -/
  missing : ∀ id q v, q.unit.same v = false → (s.registryAt id).isConvertible q.unit v = false →
    ∃ t, (convert id q v).run s = .error (.notConvertible q.unit (some v)) t ∧
      Meters.Tallied [.conversion .none] s.meters t.meters ∧ t.journal = s.journal
  /-- Any conversion that succeeds is counted once, by its path. It is that of a function where the
  journal tells that the function for the two dimensions was called; on the other paths no function
  was. -/
  converted : ∀ id q v r t, (s.registryAt id).FunctionsAlone →
    (convert id q v).run s = .ok r t →
      Meters.Tallied [.conversion (q.path v)] s.meters t.meters ∧
        if q.path v = .function then ∃ c value unit notes,
          (s.registryAt id).conversion? q.unit v = some c ∧
            t.journal = s.journal ++ notes ∧ .applied c.label value unit ∈ notes
        else t.journal = s.journal
  /-- Any conversion that fails is counted if it fails because no conversion was found. -/
  unconverted : ∀ id q v f t, (s.registryAt id).FunctionsAlone →
    (convert id q v).run s = .error f t →
      Meters.Tallied (if f.isNotConvertible then [.conversion .none] else []) s.meters t.meters
  /-- A look-up by name is counted once, by its outcome, whether or not a missing unit is a
  fault. -/
  named : ∀ id name, ∃ answer t, (tryName id name).run s = .ok answer t ∧
    after (unitNamed id name) s = t ∧
    Meters.Tallied [.nameLookup (nameOutcome (s.registryAt id) name answer)] s.meters t.meters
  /-- So is a look-up by symbol. -/
  symbolized : ∀ id symbol, ∃ answer t, (trySymbol id symbol).run s = .ok answer t ∧
    after (unitWithSymbol id symbol) s = t ∧
    Meters.Tallied [.symbolLookup (if answer.isSome then .hit else .miss)] s.meters t.meters
  /-- A unit expression is read, or one of its terms is reported; it is counted as the one or the
  other, besides look-ups. -/
  unitRead : ∀ o text, text ≠ "" →
    (∃ m t, (parseUnit o text).run s = .ok m t ∧ Sought [.parse .unit true] s t) ∨
    ∃ f t, (parseUnit o text).run s = .error f t ∧ aboutExpression f = true ∧
      Sought [.parse .unit false] s t
  /-- It is read where a registry without resolvers knows all of its terms. -/
  unitKnown : ∀ o id r text, text ≠ "" → s.Consults o id r →
    (∀ p ∈ Expression.pieces text, Text.isVacant p = false) →
    (∀ p ∈ Expression.pieces text, ∃ x, Expression.Means r p x) →
      ∃ m t, (parseUnit o text).run s = .ok m t ∧ Sought [.parse .unit true] s t
  /-- The empty text is the unit of pure numbers, which is not counted. -/
  emptyUnit : ∀ o, (parseUnit o "").run s = .ok .one s
  /-- A quantity is read where its number and its unit are, and is counted besides its unit. -/
  quantityRead : ∀ text locale o x t m u, text ≠ "" →
    (readNumber (numberText text) locale).run s = .ok x t →
    (parseUnit o (unitText text)).run t = .ok m u →
      ∃ q v, (parseQuantity text locale o).run s = .ok (some q) v ∧ q.unit = m ∧
        Sought ((if unitText text = "" then [] else [.parse .unit true]) ++
          [.parse .amount true]) s v
  /-- A number that is not read fails the quantity before its unit is looked at. A text that is no
  number is counted; that the locale, or anything else, is refused is not. -/
  numberUnread : ∀ text locale o f t, text ≠ "" →
    (readNumber (numberText text) locale).run s = .error f t →
      ∃ v, (parseQuantity text locale o).run s = .error f v ∧ aboutExpression f = false ∧
        Meters.Tallied (if aboutQuantity f then [.parse .amount false] else []) s.meters v.meters
  /-- A unit that is not read fails the quantity, and both are counted. -/
  unitUnread : ∀ text locale o x t f u, text ≠ "" →
    (readNumber (numberText text) locale).run s = .ok x t →
    (parseUnit o (unitText text)).run t = .error f u →
      ∃ v, (parseQuantity text locale o).run s = .error f v ∧
        Sought [.parse .unit false, .parse .amount false] s v
  /-- There is no quantity in the empty text, which is not counted. -/
  emptyQuantity : ∀ locale o, (parseQuantity "" locale o).run s = .ok none s

/-- Looking for a unit by symbol leaves what looking the symbol up leaves. -/
theorem after_unitWithSymbol (id : Nat) (symbol : String) (s : Session) :
    after (unitWithSymbol id symbol) s = after (trySymbol id symbol) s := by
  have hrun : (trySymbol id symbol).run s =
      .ok ((s.registryAt id).bySymbol.get? symbol) (after (trySymbol id symbol) s) := rfl
  unfold unitWithSymbol
  rw [after_bind_of_ok hrun]
  cases (s.registryAt id).bySymbol.get? symbol <;> rfl

theorem path_of_not_compatible (hs : q.unit.same v = false)
    (hv : q.unit.compatible v.toDenomination = false) : q.path v = .function := by
  rw [Quantity.path, hs, hv]
  rfl

/-- In every session whose meters are on, whatever its facilities, each call moves the counters by
exactly what `Metered` says. -/
theorem metered_of_enabled (s : Session) (hs : s.meters.enabled = true) : s.Metered where
  identical id q v h := ⟨_, run_convert_of_same id s h, Meters.tallied_count hs _, rfl⟩
  rescaled id q v hsame h :=
    ⟨_, run_convert_of_rescale id s hsame h, Meters.tallied_count hs _, rfl⟩
  applied id q v c hsame hv halone hc hroute hsource hd := by
    -- that it succeeds comes first, and then what it counts
    obtain ⟨r, t, hr, hunit, honce⟩ := run_convert_of_some hsame hv hc hroute hsource hd
    have htally := (tallied_convert_of_ok hs halone hr).1
    rw [path_of_not_compatible hsame hv] at htally
    exact ⟨r, t, hr, hunit, honce, htally⟩
  missing id q v hsame h :=
    ⟨_, run_convert_of_not_isConvertible hsame h, Meters.tallied_count hs _, rfl⟩
  converted _ _ _ _ _ halone h := tallied_convert_of_ok hs halone h
  unconverted _ _ _ _ _ halone h := tallied_convert_of_error hs halone h
  named id name := by
    obtain ⟨answer, t, ht, htally⟩ := tallied_tryName hs id name
    refine ⟨answer, t, ht, ?_, htally⟩
    rw [after_unitNamed, after_of_ok ht]
  symbolized id symbol := by
    obtain ⟨t, ht, htally⟩ := tallied_trySymbol hs id symbol
    refine ⟨_, t, ht, ?_, htally⟩
    rw [after_unitWithSymbol, after_of_ok ht]
  unitRead o _ htext := sought_parseUnit hs o htext
  unitKnown o id r text htext hr hvacant hmeans := by
    obtain ⟨head, tail, t, ht, -⟩ := run_evaluate_of_means hr hvacant hmeans
    exact sought_parseUnit_of_ok hs htext ht
  emptyUnit _ := rfl
  quantityRead _ _ _ _ _ _ _ htext hnumber hunit :=
    sought_parseQuantity_of_ok hs htext hnumber hunit
  numberUnread text locale o f t htext hnumber := by
    obtain ⟨v, hv, htally⟩ := tallied_parseQuantity_of_number hs htext hnumber
    -- no way in which a number is not read is about an expression
    have hnot := failsOnly_readNumber (P := fun f => aboutExpression f = false)
      (fun r => r.not_aboutExpression) (fun _ _ _ => rfl) _ _ s f t hnumber
    exact ⟨v, hv, hnot, htally⟩
  unitUnread _ _ _ _ _ _ _ htext hnumber hunit :=
    sought_parseQuantity_of_unit hs htext hnumber hunit
  emptyQuantity _ _ := rfl

/-- A conversion from the scale of Kelvin to that of Celsius is counted as one by a function. -/
theorem metered_of_enabled_kelvin_celsius :
    ∃ r t, (convert 0 ⟨300.0, Catalog.kelvin, 100⟩ Catalog.degreeCelsius).run
        (play [.create "scales", .addConversion 0 (Catalog.direct Catalog.kelvin
          Catalog.degreeCelsius fun x => x - Catalog.absoluteZeroCelsius)] (start true [])) =
        .ok r t ∧ t.meters.tally (.conversion .function) = 1 := by
  let s := play [.create "scales", .addConversion 0 (Catalog.direct Catalog.kelvin
    Catalog.degreeCelsius fun x => x - Catalog.absoluteZeroCelsius)] (start true [])
  have halone : (s.registryAt 0).FunctionsAlone := by
    intro c hc q
    obtain rfl := List.mem_singleton.1 hc
    trivial
  have hmetered := (metered_of_enabled s rfl).converted 0 ⟨300.0, Catalog.kelvin, 100⟩
    Catalog.degreeCelsius _ _ halone rfl
  exact ⟨_, _, rfl, hmetered.1.tally (.conversion .function)⟩

end Session

end Metrology
