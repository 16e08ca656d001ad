import Metrology.Proofs.Dimension.Group

/-!
# Names of base dimensions

However base dimensions are named, one by one, as dimensions of their own or in mappings, and
whatever of this fails, names are only added behind the others: none is held twice, none contains
the pipe character, a name and its number determine one another from then on, and the gauge shows
how many there are (`Session.interned_of_namings`).
-/

namespace Metrology

open Session

/-! ## Naming -/

/-- A way to name base dimensions, or to ask for their names. -/
inductive Naming where
  | intern (name : String)
  | base (name : String)
  | mapping (exponents : List (String × Int))
  | nameAt (i : Int)
  | names

/-- Name base dimensions, or ask for their names. -/
def Naming.perform : Naming → SessionM Unit
  | intern name => discard (Session.intern name)
  | base name => discard (baseDimension name)
  | mapping exponents => discard (dimensionOf exponents)
  | nameAt i => discard (Session.nameAt i)
  | names => do let _ := (← get).basis.names

/-- The session after a run of namings, of which some may have failed. -/
def Session.nameAll (ks : List Naming) (s : Session) : Session :=
  ks.foldl (fun s k => after k.perform s) s

/-- The gauge shows how many base dimensions there are. -/
def Session.Gauged (s : Session) : Prop :=
  s.meters.enabled = true → s.meters.dimensions = s.basis.size

/-- Base dimensions may be added behind the others, and the gauge shows how many there are. -/
def Frame.naming : Frame where
  rel s t := t.meters.enabled = s.meters.enabled ∧
    (s.basis.Sound → s.Interns t ∧ (s.Gauged → t.Gauged))
  refl s := ⟨rfl, fun h => ⟨.refl h, id⟩⟩
  trans := by
    rintro s t u ⟨he, h⟩ ⟨he', h'⟩
    refine ⟨he'.trans he, fun hs => ?_⟩
    obtain ⟨hst, hgauge⟩ := h hs
    obtain ⟨htu, hgauge'⟩ := h' hst.sound
    exact ⟨hst.trans htu, hgauge' ∘ hgauge⟩

namespace Session

variable {s t : Session} {name : String} {i : Nat}

/-- A name is admitted where it does not hold the separator of the renderings. -/
theorem admits_iff : Basis.admits name = true ↔ '|' ∉ name.toList := by
  simp [Basis.admits]

theorem naming_intern (name : String) : Frame.naming.Allows (intern name) := by
  intro s
  cases hadmitted : Basis.admits name with
  | false =>
    rw [after_of_error (run_intern_of_not_admits hadmitted s)]
    exact Frame.naming.refl s
  | true =>
    cases hnumber : s.basis.number? name with
    | some i =>
      rw [after_of_ok (run_intern_of_number? hadmitted hnumber)]
      exact Frame.naming.refl s
    | none =>
      rw [after_of_ok (run_intern_of_number?_none hadmitted hnumber)]
      refine ⟨?_, fun h => ⟨⟨⟨[name], (Basis.names_insert hnumber).symm⟩,
        h.insert hadmitted hnumber⟩, fun _ he => ?_⟩⟩
      · unfold Meters.showDimensions
        split <;> rfl
      · -- the gauge was moved in the same step, unless the meters are off
        unfold Meters.showDimensions at he ⊢
        split
        · rfl
        · rename_i hoff
          rw [if_neg hoff] at he
          exact absurd he hoff

/-- One naming only adds names, and counts those that it adds. -/
theorem naming_perform (k : Naming) : Frame.naming.Allows k.perform := by
  cases k with
  | intern name => exact (naming_intern name).discard
  | base name =>
    exact ((naming_intern name).bind fun i => Frame.allows_pure (Dimension.base i)).discard
  | mapping exponents =>
    have hset : ∀ (es : List Int) (entry : String × Int), Frame.naming.Allows (do
        pure (setExponent es (← intern entry.1) entry.2)) := fun es entry =>
      (naming_intern entry.1).bind fun _ => Frame.allows_pure _
    exact ((Frame.Allows.foldlM hset [] exponents).bind fun es => Frame.allows_pure _).discard
  | nameAt i =>
    refine (Frame.allows_get.bind fun s => ?_).discard
    split
    · exact Frame.allows_pure _
    · exact Frame.allows_throw _
  | names => exact Frame.allows_get.bind fun _ => Frame.allows_pure ()

/-- A run of namings only adds names, and counts those that it adds. -/
theorem naming_nameAll (ks : List Naming) (s : Session) : Frame.naming.rel s (nameAll ks s) := by
  induction ks generalizing s with
  | nil => exact Frame.naming.refl s
  | cons k ks ih => exact Frame.naming.trans (naming_perform k s) (ih (after k.perform s))

/-! ## Names and numbers -/

/-- The name at a position is that with the number. -/
theorem run_nameAt_iff (s : Session) (i : Nat) (name : String) :
    (nameAt i).run s = .ok name s ↔ s.basis.names[i]? = some name := by
  have hat : s.basis.nameAt? (i : Int) = s.basis.names[i]? := by
    rw [Basis.nameAt?, if_pos (Int.natCast_nonneg i), Int.toNat_natCast, Basis.name?]
  have hget : (get : SessionM Session).run s = .ok s s := rfl
  unfold nameAt
  rw [run_bind_of_ok hget, hat]
  cases s.basis.names[i]? with
  | some found => simp
  | none => exact iff_of_false nofun nofun

/-- What interning answers is the number of the name from then on. -/
theorem getElem?_of_run_intern (h : s.basis.Sound) (hrun : (intern name).run s = .ok i t) :
    t.basis.names[i]? = some name := by
  cases hadmitted : Basis.admits name with
  | false =>
    rw [run_intern_of_not_admits hadmitted] at hrun
    cases hrun
  | true =>
    cases hnumber : s.basis.number? name with
    | some j =>
      have hj := Basis.getElem?_of_number? hnumber
      rw [run_intern_of_getElem? h hj] at hrun
      cases hrun
      exact hj
    | none =>
      rw [run_intern_of_number?_none hadmitted hnumber] at hrun
      cases hrun
      exact Basis.getElem?_insert hnumber

/-- Interning a name that is admitted succeeds. -/
theorem exists_run_intern (h : Basis.admits name = true) (s : Session) :
    ∃ i t, (intern name).run s = .ok i t := by
  cases hnumber : s.basis.number? name with
  | some i => exact ⟨i, s, run_intern_of_number? h hnumber⟩
  | none => exact ⟨_, _, run_intern_of_number?_none h hnumber⟩

/-- Names and numbers in a session, and in every session that comes of it by further namings. -/
structure Interned (s : Session) : Prop where
  /-- No name is held twice. -/
  distinct : s.basis.names.Nodup
  /-- No name contains the pipe character. -/
  admitted : ∀ name ∈ s.basis.names, '|' ∉ name.toList
  /-- Interning a name with a pipe character fails and changes nothing. -/
  refused : ∀ name, '|' ∈ name.toList → (intern name).run s = .error (.pipeInName name) s
  /-- Interning any other name answers the number at which the name stands afterwards. -/
  number_iff : ∀ name, '|' ∉ name.toList → ∃ i t, (intern name).run s = .ok i t ∧
    ∀ j : Nat, i = j ↔ (nameAt j).run t = .ok name t
  /-- Interning a name that is held changes nothing. -/
  known : ∀ name ∈ s.basis.names, ∃ i, (intern name).run s = .ok i s
  /-- Names are added behind the others only, so names keep their numbers. -/
  appended : ∀ more, s.basis.names <+: (nameAll more s).basis.names
  /-- A number that was answered for a name is answered for it ever after, and stands for it. -/
  kept : ∀ name i t, (intern name).run s = .ok i t → ∀ more,
    (intern name).run (nameAll more t) = .ok i (nameAll more t) ∧
    (nameAt i).run (nameAll more t) = .ok name (nameAll more t)
  /-- The gauge shows how many names there are. -/
  gauge : s.meters.enabled = true → s.meters.dimensions = s.basis.names.length

/-- Where names and counter agree, every name is interned once. -/
theorem interned_of_sound (h : s.basis.Sound) (hg : s.Gauged) : s.Interned := by
  have hnames : ∀ name ∈ s.basis.names, '|' ∉ name.toList := fun name hname =>
    admits_iff.1 (h.admitted name hname)
  refine ⟨h.distinct, hnames, fun name hpipe => ?_, fun name hpipe => ?_, fun name hname => ?_,
    fun more => ?_, fun name i t hrun more => ?_, hg⟩
  · refine run_intern_of_not_admits (Bool.eq_false_iff.2 fun hadmits => ?_) s
    exact admits_iff.1 hadmits hpipe
  · obtain ⟨i, t, hrun⟩ := exists_run_intern (admits_iff.2 hpipe) s
    have hi := getElem?_of_run_intern h hrun
    refine ⟨i, t, hrun, fun j => ?_⟩
    rw [run_nameAt_iff]
    constructor
    · rintro rfl
      exact hi
    · -- the name stands at one place only, since the names are distinct
      intro hj
      have hsound := ((naming_intern name s).2 h).1.sound
      rw [after_of_ok hrun] at hsound
      have hnumber := (hsound.number? hi).symm.trans (hsound.number? hj)
      exact Option.some.inj hnumber
  · obtain ⟨i, hi⟩ := List.mem_iff_getElem?.1 hname
    exact ⟨i, run_intern_of_getElem? h hi⟩
  · exact ((naming_nameAll more s).2 h).1.names
  · have hst := ((naming_intern name s).2 h).1
    rw [after_of_ok hrun] at hst
    have hlater := ((naming_nameAll more t).2 hst.sound).1
    obtain ⟨hlt, hname⟩ := List.getElem?_eq_some_iff.1 (getElem?_of_run_intern h hrun)
    have hi := List.prefix_iff_getElem?.1 hlater.names i hlt
    rw [hname] at hi
    exact ⟨run_intern_of_getElem? hlater.sound hi, (run_nameAt_iff _ i name).2 hi⟩

/-- After every run of namings, names and numbers are related as `Interned` says, and the gauge
shows how many there are where the meters are on. -/
theorem interned_of_namings (facilities : Facilities) (enabled : Bool) (env : Environment)
    (ks : List Naming) : (nameAll ks (initial facilities enabled env)).Interned ∧
      (nameAll ks (initial facilities enabled env)).meters.enabled = enabled := by
  have hgauge : (initial facilities enabled env).Gauged := fun _ => rfl
  obtain ⟨henabled, hrun⟩ := naming_nameAll ks (initial facilities enabled env)
  obtain ⟨hinterns, hgauged⟩ := hrun Basis.sound_standard
  exact ⟨interned_of_sound hinterns.sound (hgauged hgauge), henabled⟩

end Session

end Metrology
