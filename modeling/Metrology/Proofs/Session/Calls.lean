import Metrology.Proofs.Session.Frame
import Metrology.Proofs.Table.Index
import Metrology.Session.Reading

/-!
# How operations are put together

Looking units up, reading unit expressions and numbers, converting quantities and setting up the
standing registry are put together from a few operations. Whatever a conduct is about, the whole has
it where these do.
-/

namespace Metrology

open Text Session

namespace Session

/-- The registry with a number; a number without a registry stands for an empty one. -/
def registryAt (s : Session) (id : Nat) : Registry :=
  s.registries.getD id (.empty "")

/-- Fill a new registry as the settings say, and let it stand in where none is named. -/
def furnish (id : Nat) : SessionM Nat := do
  let settings ← currentSettings
  if settings.standardUnits then registerStandard id
  useRegistry id
  pure id

/-- The registry that stands in, which is made where there is none yet. -/
def standIn : Option Nat → SessionM Nat
  | some id => pure id
  | none => newRegistry "default" >>= furnish

/-- The standing registry is the one that stands already, or else a new one. -/
theorem standingRegistry_eq : standingRegistry = (do return (← get).standing) >>= standIn := rfl

theorem registryAt_of_getElem? {s : Session} {id : Nat} {r : Registry}
    (h : s.registries[id]? = some r) : s.registryAt id = r := by
  simp [registryAt, h]

@[simp] theorem run_registry (id : Nat) (s : Session) :
    (registry id).run s = .ok (s.registryAt id) s := rfl

end Session

namespace Conduct

variable {α : Type} (C : Conduct)

/-! ## The standing registry -/

theorem holds_registerStandard {id : Nat} (hregister : ∀ m, C.Holds (register id m))
    (hconversion : ∀ c, C.Holds (addConversion id c)) : C.Holds (registerStandard id) := by
  have hcatalog : ∀ c : Catalog, C.Holds (registerCatalog id c) := fun c =>
    Holds.forM fun m _ => hregister m
  exact (Holds.forM fun c _ => hcatalog c).bind fun _ => Holds.forM fun c _ => hconversion c

/-- Furnishing a new registry has a conduct that its parts have. -/
theorem holds_furnish {id : Nat} (hsettings : C.Holds currentSettings)
    (hstandard : C.Holds (registerStandard id)) (huse : C.Holds (useRegistry id)) :
    C.Holds (furnish id) := by
  have hstand : C.Holds (do useRegistry id; pure id) := huse.bind fun _ => holds_pure id
  refine hsettings.bind fun settings => ?_
  dsimp only
  split
  · exact hstandard.bind fun _ => hstand
  · exact hstand

/-- The standing registry is made of reading, a new registry and its furniture. -/
theorem holds_standingRegistry (hread : C.Holds (do return (← get).standing))
    (hnew : C.Holds (newRegistry "default")) (hfurnish : ∀ id, C.Holds (furnish id)) :
    C.Holds standingRegistry := by
  rw [standingRegistry_eq]
  refine hread.bind fun o => ?_
  cases o with
  | some id => exact holds_pure id
  | none => exact hnew.bind hfurnish

theorem holds_registryOr (h : C.Holds standingRegistry) (id : Option Nat) :
    C.Holds (registryOr id) := by
  cases id with
  | some id => exact holds_pure id
  | none => exact h

/-! ## Looking units up -/

theorem holds_consult {name : String} {r : Resolver} (hnote : C.Holds (note (.consulted r.id name)))
    (hissue : ∀ d, C.Holds (issue d)) : C.Holds (consult name r) := by
  refine hnote.bind fun _ => ?_
  split
  · exact holds_pure none
  · exact holds_pure _
  · exact (hissue _).map some

/-- Resolvers are consulted one after another. -/
theorem holds_consultAll (hconsult : ∀ name r, C.Holds (consult name r)) (name : String)
    (rs : List Resolver) : C.Holds (consultAll name rs) := by
  induction rs with
  | nil => exact holds_pure none
  | cons r rs ih =>
    refine (hconsult name r).bind fun answer => ?_
    cases answer with
    | some m => exact holds_pure _
    | none => exact ih

theorem holds_tryName {id : Nat} (hregistry : C.Holds (registry id))
    (hconsult : ∀ name rs, C.Holds (consultAll name rs)) (hregister : ∀ m, C.Holds (register id m))
    (hcount : ∀ o, C.Holds (count (.nameLookup o))) (name : String) :
    C.Holds (tryName id name) := by
  refine hregistry.bind fun r => ?_
  split
  · exact (hcount _).bind fun _ => holds_pure _
  · refine (hconsult name _).bind fun answer => ?_
    cases answer with
    | some m => exact (hregister m).bind fun _ => (hcount _).bind fun _ => holds_pure _
    | none => exact (hcount _).bind fun _ => holds_pure _

theorem holds_trySymbol {id : Nat} (hregistry : C.Holds (registry id))
    (hcount : ∀ o, C.Holds (count (.symbolLookup o))) (symbol : String) :
    C.Holds (trySymbol id symbol) :=
  hregistry.bind fun _ => (hcount _).bind fun _ => holds_pure _

theorem holds_unitNamed {id : Nat} {name : String} (h : C.Holds (tryName id name)) :
    C.Holds (unitNamed id name) := by
  refine h.bind fun answer => ?_
  cases answer with
  | some m => exact holds_pure m
  | none => exact holds_throw _

theorem holds_unitWithSymbol {id : Nat} {symbol : String} (h : C.Holds (trySymbol id symbol)) :
    C.Holds (unitWithSymbol id symbol) := by
  refine h.bind fun answer => ?_
  cases answer with
  | some m => exact holds_pure m
  | none => exact holds_throw _

theorem holds_resolveRef (hregistry : ∀ o, C.Holds (registryOr o))
    (hname : ∀ id name, C.Holds (tryName id name)) (o : Option Nat) (u : UnitRef) :
    C.Holds (resolveRef o u) := by
  cases u with
  | unit m => exact holds_pure m
  | name text => exact (hregistry o).bind fun id => C.holds_unitNamed (hname id text)
  | other kind => exact holds_throw _

/-! ## Reading unit expressions -/

section

variable (hname : ∀ id name, C.Holds (tryName id name))
  (hsymbol : ∀ id symbol, C.Holds (trySymbol id symbol))
include hname hsymbol

theorem holds_tryTerm (id : Nat) (term : String) : C.Holds (tryTerm id term) := by
  refine (hname id term).bind fun answer => ?_
  cases answer with
  | some m => exact holds_pure _
  | none => exact hsymbol id term

theorem holds_resolveTerm (id : Nat) (term : List Char) : C.Holds (resolveTerm id term) := by
  -- the term gets shorter with every power that is taken off
  induction hn : term.length using Nat.strongRecOn generalizing term with
  | ind n ih =>
    rw [resolveTerm]
    refine (C.holds_tryTerm hname hsymbol id _).bind fun answer => ?_
    cases answer with
    | some m => exact holds_pure _
    | none =>
      dsimp only
      split
      · rename_i base power h
        exact (ih base.length (hn ▸ length_powerSuffix? h) base rfl).bind fun _ => holds_pure _
      · exact holds_throw _

variable {o : Option Nat} (hregistry : C.Holds (registryOr o))
include hregistry

theorem holds_operand (t : Term) : C.Holds (operand o t) := by
  unfold operand
  split
  · exact holds_pure _
  · exact hregistry.bind fun id => (C.holds_resolveTerm hname hsymbol id t.text).map Operand.unit

/-- Reading an expression is reading its terms, and joining what they mean touches nothing. -/
theorem holds_evaluate (text : String) : C.Holds (evaluate o text) := by
  have htail : ∀ x : Join × Term, C.Holds (do pure (x.1, ← operand o x.2)) := fun x =>
    (C.holds_operand hname hsymbol hregistry x.2).bind fun _ => holds_pure _
  have hterms : ∀ e : Expression, C.Holds (do
      let head ← operand o e.head
      let tail ← e.tail.mapM fun x => do pure (x.1, ← operand o x.2)
      pure (Operand.evaluate head tail)) := fun e =>
    (C.holds_operand hname hsymbol hregistry e.head).bind fun _ =>
      (Holds.mapM htail e.tail).bind fun _ => holds_pure _
  unfold evaluate
  dsimp only
  split
  · exact (holds_throw _).bind fun _ => hterms _
  · exact hterms _

end

/-- Counting a reading adds the count of it, and no more. -/
theorem holds_countedParse {kind : ParseKind} {x : SessionM α} (hx : C.Holds x)
    (hcount : ∀ success, C.Holds (count (.parse kind success))) (isAboutText : Fault → Bool) :
    C.Holds (countedParse kind isAboutText x) := by
  refine Holds.tryCatch (hx.bind fun a => (hcount _).bind fun _ => holds_pure a) fun fault => ?_
  dsimp only
  split
  · exact (hcount _).bind fun _ => holds_throw fault
  · exact holds_throw fault

theorem holds_parseUnit {o : Option Nat} {text : String} (hevaluate : C.Holds (evaluate o text))
    (hcount : ∀ success, C.Holds (count (.parse .unit success)))
    (hrealize : ∀ u, C.Holds (realize u)) : C.Holds (parseUnit o text) := by
  unfold parseUnit
  split
  · exact holds_pure _
  · exact (C.holds_countedParse hevaluate hcount _).bind hrealize

/-! ## Reading numbers -/

theorem holds_granted (a : Except Refusal α) : C.Holds (granted a) := by
  cases a with
  | ok a => exact holds_pure a
  | error r => exact holds_throw r.fault

theorem holds_localeOf (hfacilities : C.Holds currentFacilities)
    (hsettings : C.Holds currentSettings) (identifier : Option String) :
    C.Holds (localeOf identifier) := by
  have hnamed : ∀ i : String, C.Holds (localeNamed i) := fun i =>
    hfacilities.bind fun f => C.holds_granted (f.numerals.locale _)
  cases identifier with
  | some i => exact hnamed i
  | none => exact hsettings.bind fun settings => hnamed settings.defaultLocale

theorem holds_readNumber (hfacilities : C.Holds currentFacilities)
    (hsettings : C.Holds currentSettings) (text : String) (locale : Option String) :
    C.Holds (readNumber text locale) := by
  refine (C.holds_localeOf hfacilities hsettings locale).bind fun l => hfacilities.bind fun f => ?_
  split
  · exact holds_pure _
  · exact holds_throw _
  · exact holds_throw _

/-! ## Converting quantities -/

theorem holds_counted (hcount : ∀ path, C.Holds (count (.conversion path)))
    {x : SessionM (Quantity × Path)} (hx : C.Holds x) : C.Holds (counted x) := by
  refine Holds.tryCatch (hx.bind fun r => (hcount _).bind fun _ => holds_pure r.1) fun fault => ?_
  split
  · exact (hcount _).bind fun _ => holds_throw _
  · exact holds_throw _

/-- A routine is conducted like the conversions and the look-ups that it makes. -/
theorem holds_run {convert : Quantity → Measure → SessionM Quantity}
    (hquantity : ∀ value unit, C.Holds (quantity value unit))
    (href : ∀ u, C.Holds (resolveRef none u)) (hconvert : ∀ q target, C.Holds (convert q target))
    (ρ : Routine) : C.Holds (run convert ρ) := by
  induction ρ with
  | answer value unit => exact (href unit).bind fun m => hquantity value m
  | give q => exact holds_pure q
  | fail fault => exact holds_throw fault
  | convert q target next ih => exact (hconvert q target).bind fun r => ih r

/-- A conversion is conducted like the functions that it calls, of which nothing is asked in a
session where every operation is conducted well. -/
theorem holds_convertWithin {id : Nat} (hregistry : C.Holds (registry id))
    (hquantity : ∀ value unit, C.Holds (quantity value unit))
    (hnote : ∀ label value unit, C.Holds (note (.applied label value unit)))
    (hrun : ∀ s, (∀ {α : Type} (x : SessionM α), C.At x s) ∨
      ∀ c ∈ (s.registryAt id).conversions.values,
        ∀ convert : Quantity → Measure → SessionM (Quantity × Path),
          (∀ q target, C.Holds (convert q target)) →
            ∀ q, C.Holds (run (fun q target => counted (convert q target)) (c.apply q)))
    (depth : Nat) (q : Quantity) (target : Measure) :
    C.Holds (convertWithin id depth q target) := by
  induction depth generalizing q target with
  | zero => exact holds_throw _
  | succ depth ih =>
    unfold convertWithin
    split
    · exact holds_pure _
    · split
      · exact (hquantity _ _).bind fun _ => holds_pure _
      · -- which functions there are depends on the session that the look-up happens in
        intro s
        rcases hrun s with hall | hfun
        · exact hall _
        refine C.at_bind (hregistry s) fun r t hr => ?_
        cases hr
        refine (?_ : C.Holds _) s
        split
        · exact holds_throw _
        · rename_i c hc
          have happly : ∀ a, C.Holds
              (apply (fun q target => counted (convertWithin id depth q target)) c a) := fun a =>
            (hnote _ _ _).bind fun _ => hfun c (Table.mem_values_of_get? hc) _ ih a
          exact (ih q c.source).bind fun a => (happly a.1).bind fun answer =>
            (ih answer target).bind fun _ => holds_pure _

/-- A conversion is made of quantities and of calls of conversion functions, whatever the depth. -/
theorem holds_convert {id : Nat} (hfacilities : C.Holds currentFacilities)
    (hregistry : C.Holds (registry id))
    (hquantity : ∀ value unit, C.Holds (quantity value unit))
    (hnote : ∀ label value unit, C.Holds (note (.applied label value unit)))
    (hcount : ∀ path, C.Holds (count (.conversion path)))
    (hrun : ∀ s, (∀ {α : Type} (x : SessionM α), C.At x s) ∨
      ∀ c ∈ (s.registryAt id).conversions.values, ∀ convert,
        (∀ q target, C.Holds (convert q target)) → ∀ q, C.Holds (run convert (c.apply q)))
    (q : Quantity) (target : Measure) : C.Holds (convert id q target) :=
  have hwithin (depth : Nat) : C.Holds (convertWithin id depth q target) :=
    C.holds_convertWithin hregistry hquantity hnote
      (fun s => (hrun s).imp_right fun hfun c hc _ hconvert =>
        hfun c hc _ fun q target => C.holds_counted hcount (hconvert q target))
      depth q target
  hfacilities.bind fun f => C.holds_counted hcount (hwithin f.deepest)

end Conduct

namespace Frame

variable (F : Frame)

theorem allows_registry (id : Nat) : F.Allows (registry id) :=
  allows_get.bind fun _ => allows_pure _

theorem allows_currentFacilities : F.Allows currentFacilities :=
  allows_get.bind fun _ => allows_pure _

variable {F} in
theorem allows_standingRegistry (hnew : F.Allows (newRegistry "default"))
    (hsettings : F.Allows currentSettings) (hstandard : ∀ id, F.Allows (registerStandard id))
    (huse : ∀ id, F.Allows (useRegistry id)) : F.Allows standingRegistry :=
  F.conduct.holds_standingRegistry (allows_get.bind fun _ => allows_pure _) hnew
    fun id => F.conduct.holds_furnish hsettings (hstandard id) (huse id)

/-- The facilities stay as they are. -/
def equipped : Frame where
  rel s t := t.facilities = s.facilities
  refl _ := rfl
  trans h h' := h'.trans h

theorem equipped_localeOf (locale : Option String) : equipped.Allows (localeOf locale) :=
  equipped.conduct.holds_localeOf (fun _ => rfl)
    (allows_currentSettings (F := equipped) (fun _ _ => rfl) fun _ _ => rfl) locale

end Frame

namespace Session

variable {α : Type} {s t : Session}

/-! ## Numbers in a locale -/

/-- Whatever is done in a locale, it is done with the facilities that the session had before the
locale was found. -/
theorem run_localeOf_bind {locale : Option String} {l : Locale}
    (h : (localeOf locale).run s = .ok l t) (f : Locale → Facilities → SessionM α) :
    (localeOf locale >>= fun l => currentFacilities >>= f l).run s = (f l s.facilities).run t := by
  have hfacilities := Frame.equipped_localeOf locale s
  rw [after_of_ok h] at hfacilities
  rw [run_bind_of_ok h, ← show t.facilities = s.facilities from hfacilities]
  rfl

/-- A number is written as the facilities of the session write it, or refused as they refuse it. -/
theorem run_writeNumber {locale : Option String} {l : Locale}
    (h : (localeOf locale).run s = .ok l t) (pattern : String) (x : Argument) :
    (localeOf locale >>= (writeNumber · pattern x)).run s =
      match s.facilities.numerals.write l pattern x with
      | .ok number => .ok number t
      | .error r => .error r.fault t := by
  have hrun := run_localeOf_bind h fun l f => granted (f.numerals.write l pattern x)
  refine hrun.trans ?_
  cases s.facilities.numerals.write l pattern x <;> rfl

/-- A number is what the facilities of the session read the text as, white space around it left out.
A text that they find no number in is reported as it was given. -/
theorem run_readNumber {locale : Option String} {l : Locale}
    (h : (localeOf locale).run s = .ok l t) (text : String) :
    (readNumber text locale).run s =
      match s.facilities.numerals.read l (String.ofList (trim isSpace text.toList)) with
      | .ok x => .ok x t
      | .error (.noNumber seen cause) => .error (.badNumber text seen cause) t
      | .error (.refused r) => .error r.fault t := by
  refine (run_localeOf_bind h _).trans ?_
  rcases s.facilities.numerals.read l (String.ofList (trim isSpace text.toList)) with
    (⟨seen, cause⟩ | r) | x <;> rfl

/-! ## Counted readings -/

/-- A reading that succeeds is counted as a success. -/
theorem run_countedParse_of_ok {x : SessionM α} {a : α} (h : x.run s = .ok a t) (kind : ParseKind)
    (isAboutText : Fault → Bool) : (countedParse kind isAboutText x).run s =
      .ok a (after (count (.parse kind true)) t) := by
  unfold countedParse
  rw [run_tryCatch, run_bind_of_ok h]
  rfl

/-- A reading that fails over its text is counted as a failure. -/
theorem run_countedParse_of_error {x : SessionM α} {f : Fault} (h : x.run s = .error f t)
    (kind : ParseKind) (isAboutText : Fault → Bool) (hf : isAboutText f = true) :
    (countedParse kind isAboutText x).run s = .error f (after (count (.parse kind false)) t) := by
  unfold countedParse
  rw [run_tryCatch, run_bind_of_error h]
  dsimp only
  rw [hf]
  rfl

/-- A reading that fails over something else is not counted. -/
theorem run_countedParse_of_not_about {x : SessionM α} {f : Fault} (h : x.run s = .error f t)
    (kind : ParseKind) (isAboutText : Fault → Bool) (hf : isAboutText f = false) :
    (countedParse kind isAboutText x).run s = .error f t := by
  unfold countedParse
  rw [run_tryCatch, run_bind_of_error h]
  dsimp only
  rw [hf]
  rfl

/-- A text that is not empty is evaluated, and the result is issued. -/
theorem parseUnit_of_ne {text : String} (h : text ≠ "") (o : Option Nat) :
    parseUnit o text = countedParse .unit aboutExpression (evaluate o text) >>= realize := by
  unfold parseUnit
  rw [if_neg (by simpa [String.isEmpty_iff] using h)]

end Session

end Metrology
