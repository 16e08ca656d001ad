import Metrology.Proofs.Session.Settling

/-!
# Naming the standing registry

Where a registry stands in, a use that names none does what it would do if it named that one
(`run_naming`). Operations *agree* on a registry when they do the same in all sessions in which it
stands in; they go on agreeing behind one another, since no use replaces the registry.
-/

namespace Metrology

open Session

namespace Session

variable {α β : Type} {id : Nat} {s t : Session}

/-- Where the registry stands in, the operations do the same. -/
def Agree (id : Nat) (x y : SessionM α) : Prop :=
  ∀ s, s.standing = some id → x.run s = y.run s

theorem agree_refl (x : SessionM α) : Agree id x x := fun _ _ => rfl

/-- What agrees in its parts agrees as a whole, since the first part lets the registry stand in. -/
theorem Agree.bind {x y : SessionM α} {f g : α → SessionM β} (h : Agree id x y)
    (hx : Frame.using.conduct.Holds x) (hfg : ∀ a, Agree id (f a) (g a)) :
    Agree id (x >>= f) (y >>= g) := by
  intro s hs
  have hy := h s hs
  have huses : Uses s (after x s) := hx s
  cases hr : x.run s with
  | ok a t =>
    rw [after_of_ok hr] at huses
    rw [run_bind_of_ok hr, run_bind_of_ok (hy ▸ hr)]
    exact hfg a t (huses.standing_of_some hs)
  | error e t => rw [run_bind_of_error hr, run_bind_of_error (hy ▸ hr)]

theorem Agree.tryCatch {x y : SessionM α} (h : Agree id x y) (handler : Fault → SessionM α) :
    Agree id (tryCatch x handler) (tryCatch y handler) := by
  intro s hs
  rw [run_tryCatch, run_tryCatch, h s hs]

theorem Agree.map {x y : SessionM α} (h : Agree id x y) (g : α → β) :
    Agree id (g <$> x) (g <$> y) := by
  intro s hs
  rw [run_map, run_map, h s hs]

theorem agree_mapM {f g : α → SessionM β} (h : ∀ a, Agree id (f a) (g a))
    (hf : ∀ a, Frame.using.conduct.Holds (f a)) (l : List α) : Agree id (l.mapM f) (l.mapM g) := by
  induction l with
  | nil => exact agree_refl _
  | cons a l ih =>
    rw [List.mapM_cons, List.mapM_cons]
    exact (h a).bind (hf a) fun b => ih.bind (Conduct.Holds.mapM hf l) fun _ => agree_refl _

/-- The registry that is named, or the other one. -/
def orNamed (o : Option Nat) (id : Nat) : Option Nat := some (o.getD id)

/-- Where no registry is named, the standing one is as good as its name. -/
theorem agree_registryOr (o : Option Nat) :
    Agree id (registryOr o) (registryOr (orNamed o id)) := by
  intro s hs
  cases o with
  | some id' => rfl
  | none => exact run_standingRegistry_of_some hs

/-- Operations that begin with the registry. -/
theorem agree_registryOr_bind (o : Option Nat) (f : Nat → SessionM α) :
    Agree id (registryOr o >>= f) (registryOr (orNamed o id) >>= f) :=
  (agree_registryOr o).bind (grounded_using.holds_registryOr o) fun _ => agree_refl _

theorem agree_resolveRef (o : Option Nat) (u : UnitRef) :
    Agree id (resolveRef o u) (resolveRef (orNamed o id) u) := by
  cases u with
  | name text => exact agree_registryOr_bind o _
  | _ => exact agree_refl _

/-! ## Reading unit expressions -/

theorem agree_operand (o : Option Nat) (term : Term) :
    Agree id (operand o term) (operand (orNamed o id) term) := by
  unfold operand
  split
  · exact agree_refl _
  · exact agree_registryOr_bind o _

theorem agree_evaluate (o : Option Nat) (text : String) :
    Agree id (evaluate o text) (evaluate (orNamed o id) text) := by
  have htail : ∀ x : Join × Term, Agree id (do pure (x.1, ← operand o x.2))
      (do pure (x.1, ← operand (orNamed o id) x.2)) := fun x =>
    (agree_operand o x.2).bind (grounded_using.holds_operand o x.2) fun _ => agree_refl _
  have htailUses : ∀ x : Join × Term,
      Frame.using.conduct.Holds (do pure (x.1, ← operand o x.2)) := fun x =>
    (grounded_using.holds_operand o x.2).bind fun _ => Conduct.holds_pure _
  -- the head and then the tail, each of which is a use
  have hterms : ∀ e : Expression, Agree id
      (do
        let head ← operand o e.head
        let tail ← e.tail.mapM fun x => do pure (x.1, ← operand o x.2)
        pure (Operand.evaluate head tail))
      (do
        let head ← operand (orNamed o id) e.head
        let tail ← e.tail.mapM fun x => do pure (x.1, ← operand (orNamed o id) x.2)
        pure (Operand.evaluate head tail)) := fun e =>
    (agree_operand o e.head).bind (grounded_using.holds_operand o e.head) fun _ =>
      (agree_mapM htail htailUses e.tail).bind (Conduct.Holds.mapM htailUses e.tail) fun _ =>
        agree_refl _
  unfold evaluate
  dsimp only
  split
  · exact (agree_refl _).bind (Conduct.holds_throw _) fun _ => hterms _
  · exact hterms _

theorem Agree.countedParse {x y : SessionM α} (h : Agree id x y) (hx : Frame.using.conduct.Holds x)
    (kind : ParseKind) (isAboutText : Fault → Bool) :
    Agree id (countedParse kind isAboutText x) (countedParse kind isAboutText y) :=
  (h.bind hx fun _ => agree_refl _).tryCatch _

theorem agree_parseUnit (o : Option Nat) (text : String) :
    Agree id (parseUnit o text) (parseUnit (orNamed o id) text) := by
  unfold parseUnit
  split
  · exact agree_refl _
  · exact ((agree_evaluate o text).countedParse (grounded_using.holds_evaluate o text) _ _).bind
      (Frame.using.conduct.holds_countedParse (grounded_using.holds_evaluate o text)
        (fun _ => grounded_using.count _) _) fun _ => agree_refl _

/-! ## Operations on quantities -/

theorem agree_newQuantity (value : Float) (unit : UnitRef) (o : Option Nat) :
    Agree id (newQuantity value unit o) (newQuantity value unit (orNamed o id)) :=
  (agree_resolveRef o unit).bind (grounded_using.holds_resolveRef o unit) fun _ => agree_refl _

theorem agree_convertTo (q : Quantity) (target : UnitRef) (decimals : Option Int)
    (o : Option Nat) :
    Agree id (convertTo q target decimals o) (convertTo q target decimals (orNamed o id)) :=
  agree_registryOr_bind o _

/-- Operations that begin with a conversion. -/
theorem agree_convertTo_bind (q : Quantity) (target : UnitRef) (decimals : Option Int)
    (o : Option Nat) (f : Quantity → SessionM α) :
    Agree id (convertTo q target decimals o >>= f)
      (convertTo q target decimals (orNamed o id) >>= f) :=
  (agree_convertTo q target decimals o).bind (grounded_using.holds_convertTo q target decimals o)
    fun _ => agree_refl _

theorem agree_equal (a b : Quantity) (o : Option Nat) :
    Agree id (equal a b o) (equal a b (orNamed o id)) := by
  unfold equal
  split
  · exact agree_refl _
  · exact agree_registryOr_bind o _

/-- The registry matters behind the bar of a format. -/
theorem agree_written (q : Quantity) (fmt : String) (l : Locale) (o : Option Nat)
    (x : Option String) : Agree id (written q fmt l o x) (written q fmt l (orNamed o id) x) := by
  unfold written
  split
  · exact agree_refl _
  · split
    · exact agree_refl _
    · exact (agree_registryOr_bind o _).bind (grounded_using.holds_convertForFormat q _ o)
        fun _ => agree_refl _

theorem agree_format (q : Quantity) (fmt locale : Option String) (formatter : Option Formatter)
    (o : Option Nat) : Agree id (format q fmt locale formatter o)
      (format q fmt locale formatter (orNamed o id)) := by
  have hfmt : ∀ fmt : String, Agree id (format q (some fmt) locale formatter o)
      (format q (some fmt) locale formatter (orNamed o id)) := by
    intro fmt
    rw [format_some, format_some]
    exact (agree_refl _).bind (grounded_using.holds_localeOf locale) fun l =>
      (agree_refl _).bind (grounded_using.holds_special q fmt l formatter) fun x =>
        agree_written q fmt l o x
  cases fmt with
  | some fmt => exact hfmt fmt
  | none =>
    rw [format_none, format_none]
    exact (agree_refl _).bind grounded_using.settings fun settings => hfmt settings.defaultFormat

theorem agree_parseQuantity (text : String) (locale : Option String) (o : Option Nat) :
    Agree id (parseQuantity text locale o) (parseQuantity text locale (orNamed o id)) := by
  have hread : Agree id (readQuantity text locale o)
      (readQuantity text locale (orNamed o id)) := by
    unfold readQuantity
    split
    · exact agree_refl _
    · exact Agree.bind (agree_refl _) (grounded_using.holds_readNumber _ locale) fun _ =>
        (agree_parseUnit o _).bind (grounded_using.holds_parseUnit o _) fun _ => agree_refl _
  unfold parseQuantity
  split
  · exact agree_refl _
  · exact (hread.countedParse (grounded_using.holds_readQuantity text locale o) _ _).map some

end Session

/-! ## Uses -/

/-- The use that names a registry where this one leaves the registry out. -/
def Use.naming {α : Type} (id : Nat) : Use α → Use α
  | resolveRef o u => resolveRef (orNamed o id) u
  | parseUnit o text => parseUnit (orNamed o id) text
  | newQuantity value unit o => newQuantity value unit (orNamed o id)
  | convertTo q target decimals o => convertTo q target decimals (orNamed o id)
  | split q targets decimals o => split q targets decimals (orNamed o id)
  | add a b o => add a b (orNamed o id)
  | subtract a b o => subtract a b (orNamed o id)
  | equal a b o => equal a b (orNamed o id)
  | compare a b o => compare a b (orNamed o id)
  | format q fmt locale formatter o => format q fmt locale formatter (orNamed o id)
  | parseQuantity text locale o => parseQuantity text locale (orNamed o id)
  | u => u

namespace Session

variable {α : Type} {id : Nat} {s : Session}

/-- Every use agrees with the one that names the standing registry. -/
theorem agree_naming (u : Use α) : Agree id u.perform (u.naming id).perform := by
  cases u with
  | resolveRef o u => exact agree_resolveRef o u
  | parseUnit o text => exact agree_parseUnit o text
  | newQuantity value unit o => exact agree_newQuantity value unit o
  | convertTo q target decimals o => exact agree_convertTo q target decimals o
  | split q targets decimals o => exact agree_registryOr_bind o _
  | add a b o => exact agree_convertTo_bind b _ _ o _
  | subtract a b o => exact agree_convertTo_bind b _ _ o _
  | equal a b o => exact agree_equal a b o
  | compare a b o => exact agree_convertTo_bind b _ _ o _
  | format q fmt locale formatter o => exact agree_format q fmt locale formatter o
  | parseQuantity text locale o => exact agree_parseQuantity text locale o
  | _ => exact agree_refl _

/-- Where a registry stands in, a use that leaves the registry out does what it does when it names
that one. -/
theorem run_naming (u : Use α) (h : s.standing = some id) :
    (u.naming id).perform.run s = u.perform.run s :=
  (agree_naming u s h).symm

end Session

end Metrology
