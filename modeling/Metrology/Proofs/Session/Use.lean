import Metrology.Command.Answer
import Metrology.Proofs.Session.Calls
import Metrology.Session.Aggregate
import Metrology.Session.Figures

/-!
# Operations that use the settings and the standing registry

A *use* is an operation that reads the settings or takes the standing registry where its arguments
leave them out, or that may: the settings and the standing registry themselves, conversions,
arithmetic, comparisons, aggregates, formats, readings and requests. All are put together from a few
operations. A conduct that these have is *grounded*, and every use has it
(`Grounded.holds_perform`).
-/

namespace Metrology

open Session

/-- The warning that an entry of the journal is, if it is one. -/
def Note.warning? : Note → Option String
  | .warned text => some text
  | _ => none

namespace Session

/-- What an operator makes of operands that have no rule for it. -/
def unanswered : Operator → SessionM Answer
  | .equal => pure (.truth false)
  | .unequal => pure (.truth true)
  | _ => throw .wrongKind

/-- What the formatter makes of a format. -/
def special (q : Quantity) (fmt : String) (l : Locale) : Option Formatter → SessionM (Option String)
  | none => pure none
  | some f => do
    note (.formatted fmt q.value q.unit.symbol l.tag)
    pure (f fmt)

/-- What the formatter has made of a format, or else the quantity written by it. -/
def written (q : Quantity) (fmt : String) (l : Locale) (o : Option Nat) :
    Option String → SessionM String
  | some text => pure text
  | none =>
    match Text.cutFirst? '|' fmt.toList with
    | none => writeBy q fmt l
    | some (fmt, target) => do
      writeBy (← convertForFormat q target o) (String.ofList fmt) l

/-- Formatting finds the locale, asks the formatter, and then writes. -/
theorem format_some (q : Quantity) (fmt : String) (locale : Option String)
    (formatter : Option Formatter) (o : Option Nat) :
    format q (some fmt) locale formatter o = localeOf locale >>= fun l =>
      special q fmt l formatter >>= written q fmt l o := by
  cases formatter <;> rfl

/-- Without a format, that of the settings is taken. -/
theorem format_none (q : Quantity) (locale : Option String) (formatter : Option Formatter)
    (o : Option Nat) : format q none locale formatter o = currentSettings >>= fun settings =>
      format q (some settings.defaultFormat) locale formatter o := rfl

end Session

/-- The operations that uses are put together from have the property. -/
structure Conduct.Grounded (C : Conduct) : Prop where
  count : ∀ e, C.Holds (Session.count e)
  newSerial : C.Holds Session.newSerial
  note : ∀ n : Note, n.warning? = none → C.Holds (Session.note n)
  /-- Reading what no use changes. -/
  constant : ∀ {α : Type} (f : Session → α),
    (∀ s t, s.facilities = t.facilities → s.basis = t.basis → f s = f t) →
      C.Holds (do return f (← get))
  registry : ∀ id, C.Holds (Session.registry id)
  tryName : ∀ id name, C.Holds (Session.tryName id name)
  settings : C.Holds currentSettings
  standing : C.Holds standingRegistry

namespace Conduct.Grounded

variable {α : Type} {C : Conduct} (h : C.Grounded)
include h

/-! ## Units -/

theorem holds_currentFacilities : C.Holds currentFacilities :=
  h.constant Session.facilities fun _ _ hfacilities _ => hfacilities

theorem holds_quantity (value : Float) (unit : Measure) : C.Holds (quantity value unit) :=
  C.holds_quantity h.newSerial value unit

theorem holds_issue (d : Denomination) : C.Holds (issue d) :=
  C.holds_issue h.newSerial d

theorem holds_registryOr (o : Option Nat) : C.Holds (registryOr o) :=
  C.holds_registryOr h.standing o

theorem holds_resolveRef (o : Option Nat) (u : UnitRef) : C.Holds (resolveRef o u) :=
  C.holds_resolveRef h.holds_registryOr h.tryName o u

theorem holds_trySymbol (id : Nat) (symbol : String) : C.Holds (trySymbol id symbol) :=
  C.holds_trySymbol (h.registry id) (fun _ => h.count _) symbol

theorem holds_operand (o : Option Nat) (t : Term) : C.Holds (operand o t) :=
  C.holds_operand h.tryName h.holds_trySymbol (h.holds_registryOr o) t

theorem holds_evaluate (o : Option Nat) (text : String) : C.Holds (evaluate o text) :=
  C.holds_evaluate h.tryName h.holds_trySymbol (h.holds_registryOr o) text

theorem holds_parseUnit (o : Option Nat) (text : String) : C.Holds (parseUnit o text) :=
  C.holds_parseUnit (h.holds_evaluate o text) (fun _ => h.count _) (C.holds_realize h.newSerial)

/-! ## Quantities -/

theorem holds_newQuantity (value : Float) (unit : UnitRef) (o : Option Nat) :
    C.Holds (newQuantity value unit o) :=
  (h.holds_resolveRef o unit).bind (h.holds_quantity value)

theorem holds_convert (id : Nat) (q : Quantity) (target : Measure) :
    C.Holds (convert id q target) :=
  C.holds_convert h.holds_currentFacilities (h.registry id) h.holds_quantity
    (fun _ _ _ => h.note _ rfl)
    (fun _ => h.count _) (fun _ => .inr fun _ _ _ hconvert _ =>
      C.holds_run h.holds_quantity (h.holds_resolveRef none) hconvert _) q target

omit h in
theorem holds_round (x : Float) (places : Int) : C.Holds (Session.round x places) := by
  unfold Session.round
  split
  · exact holds_pure _
  · exact holds_throw _

theorem holds_convertTo (q : Quantity) (target : UnitRef) (decimals : Option Int)
    (o : Option Nat) : C.Holds (convertTo q target decimals o) := by
  refine (h.holds_registryOr o).bind fun id => (h.holds_resolveRef (some id) target).bind fun m =>
    (h.holds_convert id q m).bind fun r => ?_
  cases decimals with
  | none => exact holds_pure r
  | some places => exact (holds_round r.value places).bind fun x => h.holds_quantity x m

/-- A split is a loop over its units: conversions, truncations and quantities. -/
theorem holds_splitOver (id : Nat) (decimals : Int) (q : Quantity) (ms : List Measure) :
    C.Holds (splitOver id decimals q ms) := by
  induction ms generalizing q with
  | nil => exact holds_pure []
  | cons m ms ih =>
    cases ms with
    | nil => exact (h.holds_convertTo q _ _ _).bind fun r => holds_pure [r]
    | cons m' ms =>
      exact (h.holds_convertTo q _ _ _).bind fun whole => (h.holds_quantity _ m).bind fun part =>
        (h.holds_convertTo part _ _ _).bind fun taken => (h.holds_quantity _ _).bind fun rest =>
          (ih rest).bind fun parts => holds_pure (part :: parts)

theorem holds_split (q : Quantity) (targets : List UnitRef) (decimals : Int) (o : Option Nat) :
    C.Holds (split q targets decimals o) := by
  refine (h.holds_registryOr o).bind fun id =>
    (Holds.mapM (h.holds_resolveRef (some id)) targets).bind fun ms => ?_
  split
  · exact holds_throw _
  · exact h.holds_splitOver id decimals q ms

theorem holds_add (a b : Quantity) (o : Option Nat) : C.Holds (add a b o) :=
  (h.holds_convertTo b _ _ o).bind fun _ => h.holds_quantity _ _

theorem holds_subtract (a b : Quantity) (o : Option Nat) : C.Holds (subtract a b o) :=
  (h.holds_convertTo b _ _ o).bind fun _ => h.holds_quantity _ _

theorem holds_roundedEqual (x y : Float) : C.Holds (roundedEqual x y) :=
  h.settings.bind fun _ => (holds_round x _).bind fun _ => (holds_round y _).bind fun _ =>
    holds_pure _

theorem holds_equal (a b : Quantity) (o : Option Nat) : C.Holds (equal a b o) := by
  unfold equal
  split
  · exact holds_pure true
  · refine (h.holds_registryOr o).bind fun id => (h.registry id).bind fun r => ?_
    split
    · exact holds_pure false
    · exact (h.holds_convert id b a.unit).bind fun _ => h.holds_roundedEqual _ _

theorem holds_compare (a b : Quantity) (o : Option Nat) : C.Holds (compare a b o) := by
  refine (h.holds_convertTo b _ _ o).bind fun b => (h.holds_roundedEqual _ _).bind fun same => ?_
  split
  · exact holds_pure _
  · exact holds_pure _

theorem holds_toNumber (q : Quantity) : C.Holds (toNumber q) := by
  refine Holds.tryCatch ((h.holds_convertTo q _ _ _).bind fun r => holds_pure r.value)
    fun fault => ?_
  split <;> exact holds_throw _

/-! ## Aggregates -/

/-- A sum is a loop of conversions and additions. -/
theorem holds_sum (qs : List (Option Quantity)) : C.Holds (sum pure qs) := by
  have hadd : ∀ total item, C.Holds (addTo total item) := by
    intro total item
    cases total with
    | none => exact holds_pure item
    | some total =>
      cases item with
      | none => exact holds_throw _
      | some item => exact (h.holds_add total item none).bind fun q => holds_pure (some q)
  refine (Holds.foldlM (fun total item => (holds_pure item).bind (hadd total)) none qs).bind
    fun total => ?_
  cases total with
  | some q => exact holds_pure q
  | none => exact h.holds_quantity _ _

theorem holds_average (qs : List (Option Quantity)) : C.Holds (average pure qs) := by
  refine (Holds.mapM holds_pure qs).bind fun qs => ?_
  have hmean : C.Holds (do
      let total ← sum pure qs
      quantity (Numeral.quotient total.value (qs.length.toFloat)) total.unit) :=
    (h.holds_sum qs).bind fun _ => h.holds_quantity _ _
  dsimp only
  split
  · exact (holds_throw _).bind fun _ => hmean
  · exact hmean

theorem holds_larger (a b : Quantity) : C.Holds (larger a b) :=
  (h.holds_compare a b none).bind fun _ => holds_pure _

theorem holds_smaller (a b : Quantity) : C.Holds (smaller a b) :=
  (h.holds_compare a b none).bind fun _ => holds_pure _

theorem holds_limit (q least most : Quantity) : C.Holds (limit q least most) :=
  (h.holds_smaller q most).bind (h.holds_larger least)

/-! ## Operators -/

omit h in
theorem holds_ofScalar (x : Scalar) : C.Holds (ofScalar x) := by
  unfold ofScalar
  split
  · exact holds_pure _
  · split
    · exact holds_pure _
    · exact holds_throw _

theorem holds_toFloat (x : Argument) : C.Holds (toFloat x) := by
  unfold toFloat
  split
  · exact holds_ofScalar _
  · exact holds_pure _
  · split
    · exact holds_pure _
    · exact holds_throw _
  · exact h.holds_toNumber _
  · exact holds_throw _

theorem holds_multipleFactor (m : Measure) (x : Argument) : C.Holds (multipleFactor m x) := by
  unfold multipleFactor
  split
  · exact (h.holds_quantity _ _).bind h.holds_toNumber
  · exact holds_throw _
  · exact (h.holds_toFloat x).bind fun _ => holds_pure _

theorem holds_scaleUnit (m : Measure) (x : Argument) : C.Holds (scaleUnit m x) := by
  unfold scaleUnit
  split
  · exact holds_pure m
  · exact (h.holds_toFloat x).bind fun _ => (h.holds_multipleFactor m x).bind fun _ =>
      h.holds_issue _

theorem holds_multiplyUnit (m : Measure) (x : Argument) : C.Holds (multiplyUnit m x) := by
  unfold multiplyUnit
  split
  · exact h.holds_issue _
  · exact h.holds_scaleUnit m _

theorem holds_divideUnit (m : Measure) (x : Argument) : C.Holds (divideUnit m x) := by
  unfold divideUnit
  split
  · exact h.holds_issue _
  · exact (h.holds_toFloat _).bind fun _ => (h.holds_toFloat _).bind fun _ => h.holds_issue _

theorem holds_invertUnit (m : Measure) (x : Argument) : C.Holds (invertUnit m x) :=
  (h.holds_toFloat x).bind fun _ => (h.holds_toFloat x).bind fun _ => h.holds_issue _

theorem holds_multiplyBy (q : Quantity) (x : Argument) : C.Holds (multiplyBy q x) := by
  unfold multiplyBy
  split
  · exact (h.holds_issue _).bind (h.holds_quantity _)
  · exact (holds_ofScalar _).bind fun _ => h.holds_quantity _ _
  · exact h.holds_quantity _ _
  · exact holds_throw _

theorem holds_divideBy (q : Quantity) (x : Argument) : C.Holds (divideBy q x) := by
  unfold divideBy
  split
  · exact (h.holds_issue _).bind (h.holds_quantity _)
  · exact (h.holds_toFloat _).bind fun _ => h.holds_quantity _ _

theorem holds_quantityRule (op : Operator) (q : Quantity) (x : Argument) :
    C.Holds (quantityRule op q x) := by
  have hquantity : ∀ {x : SessionM Quantity}, C.Holds x →
      C.Holds (some <$> Answer.quantity <$> x) := fun hx => (hx.map _).map _
  unfold quantityRule
  split
  · exact hquantity (h.holds_add q _ none)
  · exact hquantity (h.holds_subtract q _ none)
  · exact hquantity (h.holds_multiplyBy q _)
  · exact hquantity (h.holds_multiplyBy q _)
  · exact hquantity (h.holds_divideBy q _)
  · exact hquantity (h.holds_divideBy q _)
  · exact ((h.holds_equal q _ none).map _).map _
  · exact (h.holds_equal q _ none).bind fun _ => holds_pure _
  · exact (h.holds_compare q _ none).bind fun _ => holds_pure _
  · exact holds_pure none

theorem holds_unitRule (op : Operator) (m : Measure) (x : Argument) :
    C.Holds (unitRule op m x) := by
  have hunit : ∀ {x : SessionM Measure}, C.Holds x →
      C.Holds (some <$> Answer.unit <$> x) := fun hx => (hx.map _).map _
  -- units are ordered by their factors alone, without a conversion
  have hcompare : ∀ n, C.Holds (compareUnits m n) := fun n => by
    unfold compareUnits
    dsimp only
    split
    · exact (holds_throw _).bind fun _ => holds_pure _
    · exact holds_pure _
  have hrequire : C.Holds (requireCompatible m none) := by
    unfold requireCompatible
    split
    · exact holds_throw _
    · exact holds_pure _
  unfold unitRule
  split
  · exact holds_pure none
  · exact holds_pure none
  · exact hunit (h.holds_multiplyUnit m _)
  · exact hunit (h.holds_multiplyUnit m _)
  · exact hunit (h.holds_divideUnit m _)
  · exact hunit (h.holds_divideUnit m _)
  · exact holds_pure none
  · exact holds_pure none
  · exact holds_pure _
  · exact holds_pure _
  · exact holds_pure none
  · exact holds_pure none
  · exact (hcompare _).bind fun _ => holds_pure _
  · exact hrequire.bind fun _ => holds_throw _
  · exact holds_throw _

theorem holds_leftRule (op : Operator) (l r : Argument) : C.Holds (leftRule op l r) := by
  unfold leftRule
  split
  · exact h.holds_quantityRule op _ r
  · exact h.holds_unitRule op _ r
  · exact holds_pure _
  · exact holds_pure none

theorem holds_rightRule (op : Operator) (l r : Argument) : C.Holds (rightRule op l r) := by
  unfold rightRule
  split
  · exact h.holds_leftRule _ r l
  · split
    · exact (holds_ofScalar _).bind fun _ => (h.holds_quantity _ _).bind fun _ => holds_pure _
    · exact ((h.holds_scaleUnit _ _).map _).map _
    · exact (((holds_ofScalar _).bind fun _ =>
        (h.holds_issue _).bind (h.holds_quantity _)).map _).map _
    · exact ((h.holds_invertUnit _ _).map _).map _
    · exact holds_pure none

/-- An operator asks its left operand first, and then its right one. -/
theorem holds_operate (op : Operator) (l r : Argument) : C.Holds (operate op l r) := by
  have hneither : C.Holds (unanswered op) := by
    unfold unanswered
    split
    · exact holds_pure _
    · exact holds_pure _
    · exact holds_throw _
  refine (h.holds_leftRule op l r).bind fun left => ?_
  cases left with
  | some a => exact holds_pure a
  | none =>
    refine (h.holds_rightRule op l r).bind fun right => ?_
    cases right with
    | some a => exact holds_pure a
    | none => exact hneither

/-! ## Texts -/

theorem holds_localeOf (identifier : Option String) : C.Holds (localeOf identifier) :=
  C.holds_localeOf h.holds_currentFacilities h.settings identifier

theorem holds_writeNumber (l : Locale) (pattern : String) (x : Argument) :
    C.Holds (writeNumber l pattern x) :=
  h.holds_currentFacilities.bind fun f => C.holds_granted (f.numerals.write l pattern x)

theorem holds_writeBy (q : Quantity) (fmt : String) (l : Locale) : C.Holds (writeBy q fmt l) := by
  unfold writeBy
  split
  · unfold writeByCode
    split
    · exact (holds_pure _).bind fun _ => holds_pure _
    · exact (h.holds_writeNumber _ _ _).bind fun _ => holds_pure _
  · exact (h.holds_writeNumber _ _ _).bind fun _ => holds_pure _

theorem holds_convertForFormat (q : Quantity) (target : List Char) (o : Option Nat) :
    C.Holds (convertForFormat q target o) := by
  refine (h.holds_registryOr o).bind fun id => ?_
  dsimp only
  split
  · have hnamed : C.Holds (resolveNamed? id q.unit) := (h.registry id).bind fun _ => holds_pure _
    exact hnamed.bind fun _ => (holds_pure _).bind (h.holds_convert id q)
  · exact (h.holds_parseUnit _ _).bind (h.holds_convert id q)

theorem holds_special (q : Quantity) (fmt : String) (l : Locale) (formatter : Option Formatter) :
    C.Holds (special q fmt l formatter) := by
  cases formatter with
  | none => exact holds_pure none
  | some f => exact (h.note _ rfl).bind fun _ => holds_pure (f fmt)

theorem holds_written (q : Quantity) (fmt : String) (l : Locale) (o : Option Nat)
    (x : Option String) : C.Holds (written q fmt l o x) := by
  unfold written
  split
  · exact holds_pure _
  · split
    · exact h.holds_writeBy q _ l
    · exact (h.holds_convertForFormat q _ o).bind fun r => h.holds_writeBy r _ l

theorem holds_format (q : Quantity) (fmt locale : Option String) (formatter : Option Formatter)
    (o : Option Nat) : C.Holds (format q fmt locale formatter o) := by
  have hfmt : ∀ fmt : String, C.Holds (format q (some fmt) locale formatter o) := by
    intro fmt
    rw [format_some]
    exact (h.holds_localeOf locale).bind fun l =>
      (h.holds_special q fmt l formatter).bind fun x => h.holds_written q fmt l o x
  cases fmt with
  | some fmt => exact hfmt fmt
  | none =>
    rw [format_none]
    exact h.settings.bind fun settings => hfmt settings.defaultFormat

theorem holds_formatGeneral (x : Argument) (locale : Option String) :
    C.Holds (formatGeneral x locale) :=
  (h.holds_localeOf locale).bind fun _ => (h.holds_toFloat x).bind fun _ => holds_pure _

theorem holds_formatNumber (x : Argument) (pattern : String) (locale : Option String) :
    C.Holds (formatNumber x pattern locale) :=
  (h.holds_localeOf locale).bind fun l => h.holds_writeNumber l pattern x

theorem holds_readNumber (text : String) (locale : Option String) :
    C.Holds (readNumber text locale) :=
  C.holds_readNumber h.holds_currentFacilities h.settings text locale

theorem holds_readQuantity (text : String) (locale : Option String) (o : Option Nat) :
    C.Holds (readQuantity text locale o) := by
  unfold readQuantity
  split
  · exact (h.holds_readNumber text locale).bind fun _ => h.holds_quantity _ _
  · exact (h.holds_readNumber _ locale).bind fun _ => (h.holds_parseUnit o _).bind fun _ =>
      h.holds_quantity _ _

/-- Reading a quantity reads a number and a unit expression, and counts itself. -/
theorem holds_parseQuantity (text : String) (locale : Option String) (o : Option Nat) :
    C.Holds (parseQuantity text locale o) := by
  unfold parseQuantity
  split
  · exact holds_pure none
  · exact (C.holds_countedParse (h.holds_readQuantity text locale o) (fun _ => h.count _) _).map _

/-! ## Requests -/

theorem holds_convertAnswer (amount unit : String) (decimals : Option Int)
    (locale fmt : Option String) :
    C.Holds (Command.convertAnswer amount unit decimals locale fmt) := by
  refine (h.holds_parseQuantity amount locale none).bind fun q => ?_
  cases q with
  | none => exact holds_pure _
  | some q =>
    exact (h.holds_parseUnit none unit).bind fun m => (h.holds_convertTo q _ decimals none).bind
      fun r => (h.holds_format r fmt locale none none).bind fun _ => holds_pure _

theorem holds_parseAnswer (expression : String) : C.Holds (Command.parseAnswer expression) := by
  have hnamed : ∀ id m, C.Holds (resolveNamed? id m) := fun id _ =>
    (h.registry id).bind fun _ => holds_pure _
  exact (h.holds_parseUnit none expression).bind fun m => h.standing.bind fun id =>
    (hnamed id m).bind fun _ => h.constant _ fun _ _ _ hb => by simp only [hb]

theorem holds_unitsAnswer (dimension : Option String) :
    C.Holds (Command.unitsAnswer dimension) := by
  have hasked : C.Holds (Command.dimensionAsked dimension) := by
    unfold Command.dimensionAsked
    split
    · exact holds_pure none
    · split
      · exact holds_pure none
      · exact (h.holds_parseUnit none _).bind fun _ => holds_pure _
  exact hasked.bind fun _ => h.standing.bind fun id => (h.registry id).bind fun _ =>
    h.constant _ fun _ _ _ hb => by simp only [hb]

/-- A command line request is one of the three answers. -/
theorem holds_request (terminal : Command.Terminal) (args : List String) :
    C.Holds (Command.respond terminal args) := by
  unfold Command.respond
  split
  · exact holds_pure _
  · rename_i request _
    have hanswer : C.Holds (Command.answer request) := by
      cases request with
      | version => exact holds_pure _
      | convert amount unit decimals locale fmt =>
        exact h.holds_convertAnswer amount unit decimals locale fmt
      | parse expression => exact h.holds_parseAnswer expression
      | units dimension => exact h.holds_unitsAnswer dimension
    refine (hanswer.bind fun a => holds_pure (a.shown terminal)).tryCatch fun fault => ?_
    exact h.constant (fun s => Command.complaint terminal s.basis fault) fun _ _ _ hb => by rw [hb]

end Conduct.Grounded

/-! ## Uses -/

/-- An operation that uses the settings or the standing registry, or may use them. -/
inductive Use : Type → Type where
  | settings : Use Settings
  | standing : Use Nat
  | resolveRef (id : Option Nat) (u : UnitRef) : Use Measure
  | parseUnit (id : Option Nat) (text : String) : Use Measure
  | newQuantity (value : Float) (unit : UnitRef) (id : Option Nat) : Use Quantity
  | convert (id : Nat) (q : Quantity) (target : Measure) : Use Quantity
  | convertTo (q : Quantity) (target : UnitRef) (decimals : Option Int) (id : Option Nat) :
      Use Quantity
  | split (q : Quantity) (targets : List UnitRef) (decimals : Int) (id : Option Nat) :
      Use (List Quantity)
  | add (a b : Quantity) (id : Option Nat) : Use Quantity
  | subtract (a b : Quantity) (id : Option Nat) : Use Quantity
  | equal (a b : Quantity) (id : Option Nat) : Use Bool
  | compare (a b : Quantity) (id : Option Nat) : Use Ordering
  | sum (qs : List (Option Quantity)) : Use Quantity
  | average (qs : List (Option Quantity)) : Use Quantity
  | larger (a b : Quantity) : Use Quantity
  | smaller (a b : Quantity) : Use Quantity
  | limit (q least most : Quantity) : Use Quantity
  | toFloat (x : Argument) : Use Float
  | scaleUnit (m : Measure) (x : Argument) : Use Measure
  | multiplyUnit (m : Measure) (x : Argument) : Use Measure
  | divideUnit (m : Measure) (x : Argument) : Use Measure
  | invertUnit (m : Measure) (x : Argument) : Use Measure
  | multiplyBy (q : Quantity) (x : Argument) : Use Quantity
  | divideBy (q : Quantity) (x : Argument) : Use Quantity
  | operate (op : Operator) (l r : Argument) : Use Answer
  | format (q : Quantity) (fmt locale : Option String) (formatter : Option Formatter)
      (id : Option Nat) : Use String
  | formatGeneral (x : Argument) (locale : Option String) : Use String
  | formatNumber (x : Argument) (pattern : String) (locale : Option String) : Use String
  | readNumber (text : String) (locale : Option String) : Use Float
  | parseQuantity (text : String) (locale : Option String) (id : Option Nat) :
      Use (Option Quantity)
  /-- Answer the command line. -/
  | request (terminal : Command.Terminal) (args : List String) : Use Command.Outcome

namespace Use

variable {α : Type}

/-- Perform a use. -/
def perform : Use α → SessionM α
  | settings => currentSettings
  | standing => standingRegistry
  | resolveRef id u => Session.resolveRef id u
  | parseUnit id text => Session.parseUnit id text
  | newQuantity value unit id => Session.newQuantity value unit id
  | convert id q target => Session.convert id q target
  | convertTo q target decimals id => Session.convertTo q target decimals id
  | split q targets decimals id => Session.split q targets decimals id
  | add a b id => Session.add a b id
  | subtract a b id => Session.subtract a b id
  | equal a b id => Session.equal a b id
  | compare a b id => Session.compare a b id
  | sum qs => Session.sum pure qs
  | average qs => Session.average pure qs
  | larger a b => Session.larger a b
  | smaller a b => Session.smaller a b
  | limit q least most => Session.limit q least most
  | toFloat x => Session.toFloat x
  | scaleUnit m x => Session.scaleUnit m x
  | multiplyUnit m x => Session.multiplyUnit m x
  | divideUnit m x => Session.divideUnit m x
  | invertUnit m x => Session.invertUnit m x
  | multiplyBy q x => Session.multiplyBy q x
  | divideBy q x => Session.divideBy q x
  | operate op l r => Session.operate op l r
  | format q fmt locale formatter id => Session.format q fmt locale formatter id
  | formatGeneral x locale => Session.formatGeneral x locale
  | formatNumber x pattern locale => Session.formatNumber x pattern locale
  | readNumber text locale => Session.readNumber text locale
  | parseQuantity text locale id => Session.parseQuantity text locale id
  | request terminal args => Command.respond terminal args

end Use

/-- What the operations that uses are put together from have, every use has. -/
theorem Conduct.Grounded.holds_perform {α : Type} {C : Conduct} (h : C.Grounded) (u : Use α) :
    C.Holds u.perform := by
  cases u with
  | settings => exact h.settings
  | standing => exact h.standing
  | resolveRef id u => exact h.holds_resolveRef id u
  | parseUnit id text => exact h.holds_parseUnit id text
  | newQuantity value unit id => exact h.holds_newQuantity value unit id
  | convert id q target => exact h.holds_convert id q target
  | convertTo q target decimals id => exact h.holds_convertTo q target decimals id
  | split q targets decimals id => exact h.holds_split q targets decimals id
  | add a b id => exact h.holds_add a b id
  | subtract a b id => exact h.holds_subtract a b id
  | equal a b id => exact h.holds_equal a b id
  | compare a b id => exact h.holds_compare a b id
  | sum qs => exact h.holds_sum qs
  | average qs => exact h.holds_average qs
  | larger a b => exact h.holds_larger a b
  | smaller a b => exact h.holds_smaller a b
  | limit q least most => exact h.holds_limit q least most
  | toFloat x => exact h.holds_toFloat x
  | scaleUnit m x => exact h.holds_scaleUnit m x
  | multiplyUnit m x => exact h.holds_multiplyUnit m x
  | divideUnit m x => exact h.holds_divideUnit m x
  | invertUnit m x => exact h.holds_invertUnit m x
  | multiplyBy q x => exact h.holds_multiplyBy q x
  | divideBy q x => exact h.holds_divideBy q x
  | operate op l r => exact h.holds_operate op l r
  | format q fmt locale formatter id => exact h.holds_format q fmt locale formatter id
  | formatGeneral x locale => exact h.holds_formatGeneral x locale
  | formatNumber x pattern locale => exact h.holds_formatNumber x pattern locale
  | readNumber text locale => exact h.holds_readNumber text locale
  | parseQuantity text locale id => exact h.holds_parseQuantity text locale id
  | request terminal args => exact h.holds_request terminal args

end Metrology
