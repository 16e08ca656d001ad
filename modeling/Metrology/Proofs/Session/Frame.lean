import Metrology.Session.Basic

/-!
# What operations on sessions may do

A *conduct* is a property that operations inherit from the operations that they are put together
from, so that it has to be looked at only for the simplest ones.

A *frame* is a relation of sessions that composes: it says what may be different after an operation.
A frame *allows* an operation when every run of it leads along the frame, whether the run succeeds
or fails. To be allowed by a frame is a conduct.
-/

namespace Metrology

namespace Session

variable {α β : Type}

/-- The session that an operation leaves, also where it fails. -/
def after (x : SessionM α) (s : Session) : Session :=
  match x.run s with
  | .ok _ s' => s'
  | .error _ s' => s'

theorem after_of_ok {x : SessionM α} {s s' : Session} {a : α} (h : x.run s = .ok a s') :
    after x s = s' := by
  simp [after, h]

theorem after_of_error {x : SessionM α} {s s' : Session} {f : Fault} (h : x.run s = .error f s') :
    after x s = s' := by
  simp [after, h]

@[simp] theorem run_map (g : α → β) (x : SessionM α) (s : Session) :
    (g <$> x).run s = match x.run s with
      | .ok a s' => .ok (g a) s'
      | .error f s' => .error f s' := by
  show EStateM.map g x s = _
  unfold EStateM.map EStateM.run
  cases x s <;> rfl

@[simp] theorem run_tryCatch (x : SessionM α) (h : Fault → SessionM α) (s : Session) :
    (tryCatch x h).run s = match x.run s with
      | .ok a s' => .ok a s'
      | .error f s' => (h f).run s' := by
  show (EStateM.tryCatch x h) s = _
  unfold EStateM.tryCatch EStateM.run
  cases x s <;> rfl

@[simp] theorem after_map (g : α → β) (x : SessionM α) (s : Session) :
    after (g <$> x) s = after x s := by
  unfold after
  rw [run_map]
  cases x.run s <;> rfl

@[simp] theorem after_discard (x : SessionM α) (s : Session) : after (discard x) s = after x s :=
  after_map _ x s

/-- What follows a successful operation begins where that one ended. -/
theorem run_bind_of_ok {x : SessionM α} {s s' : Session} {a : α} (h : x.run s = .ok a s')
    (f : α → SessionM β) : (x >>= f).run s = (f a).run s' := by
  simp [h]

theorem after_bind_of_ok {x : SessionM α} {s s' : Session} {a : α} (h : x.run s = .ok a s')
    (f : α → SessionM β) : after (x >>= f) s = after (f a) s' := by
  simp only [after, run_bind_of_ok h]

/-- Nothing follows a failed operation. -/
theorem run_bind_of_error {x : SessionM α} {s s' : Session} {e : Fault} (h : x.run s = .error e s')
    (f : α → SessionM β) : (x >>= f).run s = .error e s' := by
  simp [h]

/-- Operations that run alike leave the same session. -/
theorem after_congr {x : SessionM α} {y : SessionM α} {s t : Session} (h : x.run s = y.run t) :
    after x s = after y t := by
  simp only [after, h]

theorem run_tryCatch_of_ok {x : SessionM α} {s t : Session} {a : α} (hx : x.run s = .ok a t)
    (h : Fault → SessionM α) : (tryCatch x h).run s = .ok a t := by
  rw [run_tryCatch, hx]

theorem run_tryCatch_of_error {x : SessionM α} {s t : Session} {f : Fault}
    (hx : x.run s = .error f t) (h : Fault → SessionM α) :
    (tryCatch x h).run s = (h f).run t := by
  rw [run_tryCatch, hx]

/-- What follows another operation succeeds only where that one does. -/
theorem run_eq_ok_of_bind {x : SessionM α} {f : α → SessionM β} {s s' : Session} {b : β}
    (h : (x >>= f).run s = .ok b s') : ∃ a t, x.run s = .ok a t ∧ (f a).run t = .ok b s' := by
  cases hx : x.run s with
  | ok a t =>
    rw [run_bind_of_ok hx] at h
    exact ⟨a, t, rfl, h⟩
  | error e t =>
    rw [run_bind_of_error hx] at h
    cases h

/-- The operation never fails. -/
def Total (x : SessionM α) : Prop :=
  ∀ s, ∃ a, x.run s = .ok a (after x s)

/-- What follows an operation that never fails begins in the session that it leaves. -/
theorem Total.after_bind {x : SessionM Unit} (hx : Total x) (y : SessionM β) (s : Session) :
    after (x >>= fun _ => y) s = after y (after x s) := by
  obtain ⟨u, h⟩ := hx s
  exact after_bind_of_ok h _

theorem Total.forM {f : α → SessionM Unit} (h : ∀ a, Total (f a)) (l : List α) :
    Total (l.forM f) := by
  induction l with
  | nil => exact fun s => ⟨(), rfl⟩
  | cons a l ih =>
    intro s
    obtain ⟨u, ha⟩ := h a s
    obtain ⟨v, hl⟩ := ih (after (f a) s)
    have hcons : (a :: l).forM f = (f a >>= fun _ => l.forM f) := rfl
    refine ⟨v, ?_⟩
    rw [hcons, (h a).after_bind, run_bind_of_ok ha, hl]

/-! ## What operations fail with -/

/-- Every fault of the operation has the property. -/
def FailsOnly (P : Fault → Prop) (x : SessionM α) : Prop :=
  ∀ s f t, x.run s = .error f t → P f

variable {P : Fault → Prop}

theorem failsOnly_pure (a : α) : FailsOnly P (pure a) := by
  intro s f t h
  cases h

theorem failsOnly_get : FailsOnly P get := by
  intro s f t h
  cases h

theorem failsOnly_modify (g : Session → Session) : FailsOnly P (modify g) := by
  intro s f t h
  cases h

theorem failsOnly_throw {f : Fault} (h : P f) : FailsOnly P (throw f : SessionM α) := by
  intro s f' t hf
  cases hf
  exact h

/-- What does not fail, fails only with faults of any kind. -/
theorem Total.failsOnly {x : SessionM α} (h : Total x) : FailsOnly P x := by
  intro s f t hf
  obtain ⟨a, ha⟩ := h s
  rw [ha] at hf
  cases hf

/-- The faults of two operations one after another are those of either. -/
theorem FailsOnly.bind {x : SessionM α} {g : α → SessionM β} (hx : FailsOnly P x)
    (hg : ∀ a, FailsOnly P (g a)) : FailsOnly P (x >>= g) := by
  intro s f t h
  cases hr : x.run s with
  | ok a s' =>
    rw [run_bind_of_ok hr] at h
    exact hg a s' f t h
  | error e s' =>
    rw [run_bind_of_error hr] at h
    cases h
    exact hx s _ _ hr

theorem failsOnly_note (n : Note) : FailsOnly P (note n) := failsOnly_modify _

theorem FailsOnly.forIn {g : α → β → SessionM (ForInStep β)} (h : ∀ a b, FailsOnly P (g a b))
    (l : List α) (b : β) : FailsOnly P (forIn l b g) := by
  induction l generalizing b with
  | nil => exact failsOnly_pure b
  | cons a l ih =>
    rw [List.forIn_cons]
    refine (h a b).bind fun step => ?_
    cases step with
    | done b => exact failsOnly_pure b
    | yield b => exact ih b

theorem failsOnly_readEnvironment : FailsOnly P readEnvironment := by
  refine failsOnly_get.bind fun _ => (FailsOnly.forIn (fun w _ => ?_) _ _).bind fun _ =>
    failsOnly_pure _
  exact (failsOnly_note (.warned w)).bind fun _ => failsOnly_pure _

theorem failsOnly_currentSettings : FailsOnly P currentSettings := by
  refine failsOnly_get.bind fun s => ?_
  split
  · exact failsOnly_pure _
  · exact failsOnly_readEnvironment.bind fun _ =>
      (failsOnly_modify _).bind fun _ => failsOnly_pure _

end Session

open Session

/-! ## Properties that operations inherit -/

/-- A property of the run of an operation in a session, which compound operations inherit. -/
structure Conduct where
  At : {α : Type} → SessionM α → Session → Prop
  at_pure : ∀ {α : Type} (a : α) (s : Session), At (pure a) s
  at_throw : ∀ {α : Type} (f : Fault) (s : Session), At (throw f : SessionM α) s
  /-- One operation after another. -/
  at_bind : ∀ {α β : Type} {x : SessionM α} {f : α → SessionM β} {s : Session}, At x s →
    (∀ a t, x.run s = .ok a t → At (f a) t) → At (x >>= f) s
  /-- An operation with another one for its faults. -/
  at_tryCatch : ∀ {α : Type} {x : SessionM α} {h : Fault → SessionM α} {s : Session}, At x s →
    (∀ f t, x.run s = .error f t → At (h f) t) → At (tryCatch x h) s

namespace Conduct

variable {α β : Type} {C : Conduct}

/-- Every run of the operation has the property. -/
def Holds (C : Conduct) (x : SessionM α) : Prop :=
  ∀ s, C.At x s

theorem holds_pure (a : α) : C.Holds (pure a) := C.at_pure a

theorem holds_throw (f : Fault) : C.Holds (throw f : SessionM α) := C.at_throw f

/-- A conduct is kept by one operation after another. -/
theorem Holds.bind {x : SessionM α} {f : α → SessionM β} (hx : C.Holds x)
    (hf : ∀ a, C.Holds (f a)) : C.Holds (x >>= f) :=
  fun s => C.at_bind (hx s) fun a t _ => hf a t

/-- A conduct is kept where faults are handled. -/
theorem Holds.tryCatch {x : SessionM α} {h : Fault → SessionM α} (hx : C.Holds x)
    (hh : ∀ f, C.Holds (h f)) : C.Holds (tryCatch x h) :=
  fun s => C.at_tryCatch (hx s) fun f t _ => hh f t

theorem Holds.map {x : SessionM α} (hx : C.Holds x) (g : α → β) : C.Holds (g <$> x) := by
  rw [map_eq_pure_bind]
  exact hx.bind fun a => holds_pure (g a)

theorem Holds.forM {f : α → SessionM Unit} {l : List α} (h : ∀ a ∈ l, C.Holds (f a)) :
    C.Holds (l.forM f) := by
  induction l with
  | nil => exact holds_pure ()
  | cons a l ih =>
    exact (h a List.mem_cons_self).bind fun _ => ih fun b hb => h b (List.mem_cons_of_mem a hb)

/-- A conduct is kept by loops: by induction over what is left of the list. -/
theorem Holds.forIn {f : α → β → SessionM (ForInStep β)} (h : ∀ a b, C.Holds (f a b))
    (l : List α) (b : β) : C.Holds (forIn l b f) := by
  induction l generalizing b with
  | nil => exact holds_pure b
  | cons a l ih =>
    rw [List.forIn_cons]
    refine (h a b).bind fun step => ?_
    cases step with
    | done b => exact holds_pure b
    | yield b => exact ih b

theorem Holds.foldlM {f : β → α → SessionM β} (h : ∀ b a, C.Holds (f b a)) (b : β)
    (l : List α) : C.Holds (l.foldlM f b) := by
  induction l generalizing b with
  | nil => exact holds_pure b
  | cons a l ih =>
    rw [List.foldlM_cons]
    exact (h b a).bind ih

theorem Holds.mapM {f : α → SessionM β} (h : ∀ a, C.Holds (f a)) (l : List α) :
    C.Holds (l.mapM f) := by
  induction l with
  | nil => exact holds_pure []
  | cons a l ih =>
    rw [List.mapM_cons]
    exact (h a).bind fun b => ih.bind fun bs => holds_pure (b :: bs)

variable (C)

theorem holds_issue (h : C.Holds newSerial) (d : Denomination) : C.Holds (issue d) :=
  h.bind fun _ => holds_pure _

theorem holds_realize (h : C.Holds newSerial) (u : Derived) : C.Holds (realize u) := by
  cases u with
  | known m => exact holds_pure m
  | fresh d => exact C.holds_issue h d

theorem holds_quantity (h : C.Holds newSerial) (value : Float) (unit : Measure) :
    C.Holds (quantity value unit) :=
  h.bind fun _ => holds_pure _

end Conduct

/-! ## Frames -/

/-- A relation of sessions that composes. -/
structure Frame where
  rel : Session → Session → Prop
  refl : ∀ s, rel s s
  trans : ∀ {s t u}, rel s t → rel t u → rel s u

namespace Frame

variable {α β : Type} {F : Frame}

/-- Every run of the operation leads along the frame. -/
def Allows (F : Frame) (x : SessionM α) : Prop :=
  ∀ s, F.rel s (after x s)

/-- What a narrow frame allows, a wider one does. -/
theorem Allows.mono {G : Frame} {x : SessionM α} (hx : F.Allows x)
    (h : ∀ s t, F.rel s t → G.rel s t) : G.Allows x :=
  fun s => h s (after x s) (hx s)

theorem allows_pure (a : α) : F.Allows (pure a) := fun s => F.refl s

theorem allows_throw (f : Fault) : F.Allows (throw f : SessionM α) := fun s => F.refl s

theorem allows_get : F.Allows get := fun s => F.refl s

theorem allows_modify {f : Session → Session} (h : ∀ s, F.rel s (f s)) : F.Allows (modify f) := h

/-- To be allowed by a frame is a property that operations inherit. -/
def conduct (F : Frame) : Conduct where
  At x s := F.rel s (after x s)
  at_pure _ s := F.refl s
  at_throw _ s := F.refl s
  at_bind := by
    intro α β x f s hs hf
    cases h : x.run s with
    | ok a t =>
      rw [after_of_ok h] at hs
      rw [after_bind_of_ok h]
      exact F.trans hs (hf a t h)
    | error e t =>
      -- nothing follows, so the session stays where the fault left it
      rw [after_of_error h] at hs
      rw [after_of_error (run_bind_of_error h f)]
      exact hs
  at_tryCatch := by
    intro α x h s hs hh
    cases hr : x.run s with
    | ok a t =>
      rw [after_of_ok hr] at hs
      rw [after_of_ok (run_tryCatch_of_ok hr h)]
      exact hs
    | error e t =>
      rw [after_of_error hr] at hs
      rw [after_congr (run_tryCatch_of_error hr h)]
      exact F.trans hs (hh e t hr)

/-- One operation after another. -/
theorem Allows.bind {x : SessionM α} {f : α → SessionM β} (hx : F.Allows x)
    (hf : ∀ a, F.Allows (f a)) : F.Allows (x >>= f) :=
  Conduct.Holds.bind (C := F.conduct) hx hf

theorem Allows.map {x : SessionM α} (hx : F.Allows x) (g : α → β) : F.Allows (g <$> x) :=
  Conduct.Holds.map (C := F.conduct) hx g

theorem Allows.discard {x : SessionM α} (hx : F.Allows x) : F.Allows (discard x) :=
  hx.map _

theorem Allows.forM {f : α → SessionM Unit} {l : List α} (h : ∀ a ∈ l, F.Allows (f a)) :
    F.Allows (l.forM f) :=
  Conduct.Holds.forM (C := F.conduct) h

theorem Allows.forIn {f : α → β → SessionM (ForInStep β)} (h : ∀ a b, F.Allows (f a b))
    (l : List α) (b : β) : F.Allows (forIn l b f) :=
  Conduct.Holds.forIn (C := F.conduct) h l b

theorem Allows.foldlM {f : β → α → SessionM β} (h : ∀ b a, F.Allows (f b a)) (b : β)
    (l : List α) : F.Allows (l.foldlM f b) :=
  Conduct.Holds.foldlM (C := F.conduct) h b l

/-! ## Reading the settings -/

theorem allows_readEnvironment (h : ∀ n, F.Allows (note n)) : F.Allows readEnvironment := by
  refine allows_get.bind fun _ => (Allows.forIn (fun w _ => ?_) _ _).bind fun _ => allows_pure _
  exact (h (.warned w)).bind fun _ => allows_pure _

theorem allows_currentSettings (hnote : ∀ n, F.Allows (note n))
    (huse : ∀ settings, F.Allows (useSettings settings)) : F.Allows currentSettings := by
  refine allows_get.bind fun s => ?_
  split
  · exact allows_pure _
  · exact (allows_readEnvironment hnote).bind fun settings =>
      (huse settings).bind fun _ => allows_pure settings

/-! ## Operations that leave the registries as they are -/

/-- The registries stay as they are. -/
def silent : Frame where
  rel s t := t.registries = s.registries
  refl _ := rfl
  trans h₁ h₂ := h₂.trans h₁

theorem silent_note (n : Note) : silent.Allows (note n) := allows_modify fun _ => rfl

theorem silent_count (e : Event) : silent.Allows (count e) := allows_modify fun _ => rfl

theorem silent_newSerial : silent.Allows newSerial := fun _ => rfl

theorem silent_issue (d : Denomination) : silent.Allows (issue d) :=
  silent.conduct.holds_issue silent_newSerial d

theorem silent_realize (u : Derived) : silent.Allows (realize u) :=
  silent.conduct.holds_realize silent_newSerial u

theorem silent_quantity (value : Float) (unit : Measure) : silent.Allows (quantity value unit) :=
  silent.conduct.holds_quantity silent_newSerial value unit

theorem silent_currentSettings : silent.Allows currentSettings :=
  allows_currentSettings silent_note fun _ => allows_modify fun _ => rfl

end Frame

end Metrology
