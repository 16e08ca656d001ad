import Metrology.Proofs.Dimension.Rendering
import Metrology.Proofs.Session.Operation
import Metrology.Proofs.Table.Counts
import Metrology.Session.Entries
import Metrology.Session.Standard

/-!
# The counts of a registry

The counts by dimension are kept under the texts of the dimensions, while the registry keeps its
units under the dimensions themselves. So they account for every unit exactly if the registered
dimensions have different texts; of several with the same text, only the last one is counted
(`Session.summary_of_play`). Dimensions have different texts as long as no name of a base dimension
hides a factor, and not in general (`Session.not_forall_summary_complete`).
-/

namespace Metrology

namespace Registry

variable {r : Registry} {cs : List Conversion} {b : Basis}

/-- The number of units of every dimension, under its text. -/
def tally (r : Registry) (b : Basis) : List (String × Int) :=
  r.dimensions.map fun d => (b.describe d, ((r.unitsOf (some d)).length : Int))

/-- The counts by dimension are those of a table that is filled in the order of the dimensions. -/
theorem Recorded.unitsByDimension_eq (h : r.Recorded cs) (b : Basis) :
    (r.summary b).unitsByDimension = (Table.ofList (r.tally b)).entries := by
  have hentries : r.byDimension.entries = r.dimensions.map fun d => (d, r.unitsOf (some d)) := by
    rw [h.byDimension.entries_eq, dimensions, h.byDimension.keys]
    refine List.map_congr_left fun d _ => ?_
    rw [h.determined.unitsOf]
  rw [summary, hentries, List.map_map]
  rfl

/-- No dimension is listed twice. -/
theorem Recorded.dimensions_nodup (h : r.Recorded cs) : r.dimensions.Nodup := by
  rw [h.determined.dimensions]
  exact Table.nodup_eraseDups _

/-- Every registered dimension has a unit. -/
theorem Recorded.tally_pos (h : r.Recorded cs) : ∀ e ∈ r.tally b, 0 < e.2 := by
  intro e he
  obtain ⟨d, hd, rfl⟩ := List.mem_map.1 he
  rw [h.determined.dimensions, List.mem_eraseDups] at hd
  obtain ⟨m, hm, rfl⟩ := List.mem_map.1 hd
  have hunits : m ∈ r.unitsOf (some m.dimension) := by
    rw [h.determined.unitsOf]
    exact List.mem_filter.2 ⟨hm, decide_eq_true rfl⟩
  exact Int.natCast_pos.2 (List.length_pos_of_mem hunits)

/-- The units of all dimensions together are the registered units. -/
theorem Recorded.sum_tally (h : r.Recorded cs) (b : Basis) :
    ((r.tally b).map Prod.snd).sum = r.units.length := by
  have hsum := Table.sum_length_filter (fun m : Measure => m.dimension) r.units
  rw [← h.determined.dimensions] at hsum
  rw [← hsum, tally, List.map_map, Nat.cast_list_sum, List.map_map]
  refine congrArg List.sum (List.map_congr_left fun d _ => ?_)
  rw [Function.comp_apply, Function.comp_apply, h.determined.unitsOf]

theorem map_fst_tally (r : Registry) (b : Basis) :
    (r.tally b).map Prod.fst = r.dimensions.map b.describe := by
  rw [tally, List.map_map]
  rfl

/-- No count is overwritten exactly if the registered dimensions have different texts. -/
theorem Recorded.nodup_tally_iff (h : r.Recorded cs) (b : Basis) :
    ((r.tally b).map Prod.fst).Nodup ↔ Set.InjOn b.describe {d | d ∈ r.dimensions} := by
  rw [map_fst_tally, List.nodup_map_iff_inj_on h.dimensions_nodup]
  exact ⟨fun hinj d hd e he => hinj d hd e he, fun hinj d hd e he => hinj hd he⟩

end Registry

/-- What a summary of a registry says about its units. -/
structure RegistrySummary.Counts (c : RegistrySummary) (r : Registry) (b : Basis) : Prop where
  units : c.units = (r.unitsOf none).length
  dimensions : c.dimensions = ((r.units.map fun m => m.dimension).eraseDups).length
  /-- The counts are kept under the texts of the registered dimensions. -/
  texts : c.unitsByDimension.map Prod.fst = (r.dimensions.map b.describe).eraseDups
  /-- Of the dimensions that have a text, the last one is counted. -/
  counts : ∀ text n, (text, n) ∈ c.unitsByDimension →
    ∃ d, (r.dimensions.filter fun d => b.describe d = text).getLast? = some d ∧
      n = (r.units.filter fun m => m.dimension = d).length
  /-- No unit is counted twice. -/
  sum_le : (c.unitsByDimension.map Prod.snd).sum ≤ c.units
  /-- The counts add up exactly if the registered dimensions have different texts. -/
  sum_eq_iff : (c.unitsByDimension.map Prod.snd).sum = c.units ↔
    Set.InjOn b.describe {d | d ∈ r.dimensions}
  /-- There are as many counts as dimensions exactly if these have different texts. -/
  length_eq_iff : c.unitsByDimension.length = c.dimensions ↔
    Set.InjOn b.describe {d | d ∈ r.dimensions}

/-- The summary counts what the tables of the registry hold. -/
theorem Registry.Recorded.counts {r : Registry} {cs : List Conversion} (h : r.Recorded cs)
    (b : Basis) : (r.summary b).Counts r b := by
  have hentries := h.unitsByDimension_eq b
  have hkeys : (r.summary b).unitsByDimension.map Prod.fst =
      (r.dimensions.map b.describe).eraseDups := by
    rw [hentries, ← Registry.map_fst_tally]
    exact Table.keys_ofList _
  have hdimensions : (r.summary b).dimensions = (r.dimensions.length : Int) :=
    congrArg Int.ofNat (List.length_map _).symm
  obtain ⟨hle, hiff⟩ := Table.sum_ofList (r.tally b) h.tally_pos
  rw [h.nodup_tally_iff, h.sum_tally] at hiff
  rw [h.sum_tally] at hle
  refine ⟨rfl, ?_, hkeys, fun text n hn => ?_, hentries ▸ hle, hentries ▸ hiff, ?_⟩
  · rw [hdimensions, h.determined.dimensions]
  · have hnodup : ((Table.ofList (r.tally b)).entries.map Prod.fst).Nodup := by
      rw [← hentries, hkeys]
      exact Table.nodup_eraseDups _
    -- of the dimensions with one text, the last one was written
    have hget : (Table.ofList (r.tally b)).get? text = some n :=
      Table.lookup_of_mem hnodup (hentries ▸ hn)
    rw [Table.get?_ofList, Registry.tally, List.filter_map, List.getLast?_map, Option.map_map,
      Option.map_eq_some_iff] at hget
    obtain ⟨d, hd, rfl⟩ := hget
    refine ⟨d, hd, ?_⟩
    rw [Function.comp_apply, h.determined.unitsOf]
  · rw [← h.nodup_tally_iff, Registry.map_fst_tally, ← Table.length_eraseDups_eq_iff, ← hkeys,
      List.length_map, List.length_map, hdimensions]
    exact Int.ofNat_inj

namespace Session

/-- Asking for the summary changes nothing. -/
theorem run_summary {s : Session} {id : Nat} {r : Registry} (h : s.registries[id]? = some r) :
    (summary id).run s = .ok (r.summary s.basis) s := by
  unfold summary
  rw [run_bind_of_ok (run_registry id s), registryAt_of_getElem? h]
  rfl

/-- Interning reaches no registry. -/
theorem silent_intern (name : String) : Frame.silent.Allows (intern name) := by
  intro s
  cases hadmitted : Basis.admits name with
  | false =>
    rw [after_of_error (run_intern_of_not_admits hadmitted s)]
    rfl
  | true =>
    cases hnumber : s.basis.number? name with
    | some i =>
      rw [after_of_ok (run_intern_of_number? hadmitted hnumber)]
      rfl
    | none =>
      rw [after_of_ok (run_intern_of_number?_none hadmitted hnumber)]
      rfl

/-- A unit of metre times second, and a unit of a base dimension that is named like it. -/
def lookalikes : List Measure :=
  [{ Denomination.declare "metre second" "ms" 1.0 (.ofList [1, 0, 1]) with serial := 1 },
   { Denomination.declare "lookalike" "l" 1.0 (.base 9) with serial := 2 }]

/-- Intern the name that hides a factor, and register the units with a new registry. -/
def mistaken : List Operation :=
  [.elsewhere (after (intern "metre^1 * second")) (silent_intern _), .create "lab",
   .registerAll 0 (lookalikes.map .unit)]

/-- After every run of operations, a registry answers its counts, and changes nothing. These number
the units and their dimensions. Under the texts of the dimensions all
units are counted, and there are as many texts as dimensions, exactly if different dimensions have
different texts, which they have as long as no name of a base dimension hides a factor. -/
theorem summary_of_play (f : Facilities) (enabled : Bool) (env : Environment)
    (ops : List Operation) (id : Nat) (r : Registry)
    (h : (play ops (initial f enabled env)).registries[id]? = some r) :
    let s := play ops (initial f enabled env)
    let c := r.summary s.basis
    (summary id).run s = .ok c s ∧ c.Counts r s.basis ∧
      (s.basis.Sound → (∀ name ∈ s.basis.names, ¬ Hides name) →
        (∀ d ∈ r.dimensions, d.Over s.basis.size) →
        (c.unitsByDimension.map Prod.snd).sum = c.units ∧
          c.unitsByDimension.length = c.dimensions) := by
  intro s c
  obtain ⟨cs, hcs⟩ := exists_recorded_of_play h
  have hcounts : c.Counts r s.basis := hcs.counts s.basis
  refine ⟨run_summary h, hcounts, fun hsound hnames hover => ?_⟩
  have hinj := (hsound.describe_injOn hnames).mono hover
  exact ⟨hcounts.sum_eq_iff.2 hinj, hcounts.length_eq_iff.2 hinj⟩

/-- Of the two units that look alike, one is counted. -/
theorem summary_of_play_mistaken : ∃ r, (play mistaken (start true [])).registries[0]? = some r ∧
    (r.summary (play mistaken (start true [])).basis).Counts r
      (play mistaken (start true [])).basis ∧
    (r.summary (play mistaken (start true [])).basis).units = 2 ∧
    (r.summary (play mistaken (start true [])).basis).unitsByDimension =
      [("metre^1 * second^1", 1)] := by
  obtain ⟨r, hr⟩ : ∃ r, (play mistaken (start true [])).registries[0]? = some r := ⟨_, rfl⟩
  have hcounts := (summary_of_play .standard true [] mistaken 0 r hr).2.1
  cases hr
  exact ⟨_, rfl, hcounts, by decide, by decide⟩

/-- In general not every unit is counted, nor are there as many texts as dimensions. -/
theorem not_forall_summary_complete :
    ¬ ∀ (enabled : Bool) (env : Environment) (ops : List Operation) (id : Nat) (r : Registry)
      (c : RegistrySummary) (t : Session),
      (play ops (start enabled env)).registries[id]? = some r →
      (play ops (start enabled env)).basis.Sound →
      (∀ d ∈ r.dimensions, d.Over (play ops (start enabled env)).basis.size) →
      (summary id).run (play ops (start enabled env)) = .ok c t →
      (c.unitsByDimension.map Prod.snd).sum = c.units ∧
        c.unitsByDimension.length = c.dimensions := by
  intro hall
  obtain ⟨r, hr⟩ : ∃ r, (play mistaken (start true [])).registries[0]? = some r := ⟨_, rfl⟩
  have hnames : (play mistaken (start true [])).basis.names =
      Basis.standard.names ++ ["metre^1 * second"] := by decide
  have hdimensions : r.dimensions = [.ofList [1, 0, 1], .base 9] := by
    have hregistries : (play mistaken (start true [])).registries.map Registry.dimensions =
      [[.ofList [1, 0, 1], .base 9]] := by decide
    have hr' := congrArg (·[0]?) hregistries
    simpa [hr] using hr'
  have hsound : (play mistaken (start true [])).basis.Sound := by
    constructor <;> rw [hnames] <;> decide
  have hover : ∀ d ∈ r.dimensions, d.Over (play mistaken (start true [])).basis.size := by
    rw [Basis.size, hnames, hdimensions]
    intro d hd i hi
    refine List.getD_eq_default _ _ (Nat.le_trans ?_ hi)
    revert d
    decide
  obtain ⟨cs, hcs⟩ := exists_recorded_of_play hr
  have hsum := (hall true [] mistaken 0 r _ _ hr hsound hover (run_summary hr)).1
  -- the two dimensions have the same text, so one of the two counts is gone
  have hinj := (hcs.counts _).sum_eq_iff.1 hsum
  rw [hdimensions] at hinj
  have hsame : Dimension.ofList [1, 0, 1] = .base 9 := hinj (by simp) (by simp) (by decide)
  exact absurd hsame (by decide)

end Session

end Metrology
