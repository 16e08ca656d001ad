import Mathlib.Algebra.BigOperators.Group.List.Lemmas
import Mathlib.Algebra.GroupWithZero.Nat
import Mathlib.Algebra.Ring.Int.Defs
import Mathlib.Data.List.Dedup
import Mathlib.Data.List.Induction
import Metrology.Proofs.Table.Index

/-!
# Tables of counts

A table that groups a list holds every element in exactly one group, so the sizes of its groups add
up to the length of the list. Where such sizes are written to another table under keys of their own,
two that have the same key leave the later one only: the counts still add up to what they did
exactly if no key is written twice (`Table.sum_ofList`).
-/

namespace Metrology.Table

variable {κ α : Type} [DecidableEq κ]

/-! ## Distinct keys -/

theorem nodup_eraseDups (ks : List κ) : ks.eraseDups.Nodup := by
  induction ks using List.reverseRecOn with
  | nil => exact List.nodup_nil
  | append_singleton ks k ih =>
    rw [eraseDups_concat]
    split
    · exact ih
    · rename_i hk
      exact List.nodup_append.2 ⟨ih, List.nodup_singleton k, fun a ha b hb heq =>
        hk (List.mem_eraseDups.1 (List.mem_singleton.1 hb ▸ heq ▸ ha))⟩

theorem eraseDups_perm_dedup (ks : List κ) : ks.eraseDups.Perm ks.dedup :=
  (List.perm_ext_iff_of_nodup (nodup_eraseDups ks) (List.nodup_dedup ks)).2 (by simp)

/-- Nothing is dropped exactly if the elements are distinct. -/
theorem length_eraseDups_eq_iff (ks : List κ) : ks.eraseDups.length = ks.length ↔ ks.Nodup := by
  rw [(eraseDups_perm_dedup ks).length_eq, ← List.dedup_eq_self]
  exact ⟨(List.dedup_sublist ks).eq_of_length, fun h => by rw [h]⟩

/-- Where no key occurs twice, an entry is found by its key. -/
theorem lookup_of_mem {k : κ} {a : α} {es : List (κ × α)} (hnodup : (es.map Prod.fst).Nodup)
    (h : (k, a) ∈ es) : lookup k es = some a := by
  induction es with
  | nil => cases h
  | cons e es ih =>
    obtain ⟨hnew, hnodup⟩ := List.nodup_cons.1 hnodup
    rcases List.mem_cons.1 h with rfl | h
    · simp [lookup]
    · have hne : e.1 ≠ k := fun heq => hnew (heq ▸ List.mem_map_of_mem h)
      simpa [lookup, hne] using ih hnodup h

/-! ## Groups -/

variable {key : α → κ} {l : List α}

/-- The entries of a grouping: every key that occurs, with the elements that have it. -/
theorem Groups.entries_eq {t : Table κ (List α)} (h : t.Groups key l) :
    t.entries = (l.map key).eraseDups.map fun k => (k, l.filter fun a => key a = k) := by
  have hnodup : t.keys.Nodup := h.keys ▸ nodup_eraseDups _
  -- an entry is what is found under its key
  have hentry : ∀ e ∈ t.entries, e = (e.1, l.filter fun a => key a = e.1) := by
    intro e he
    have hget : t.get? e.1 = some e.2 := lookup_of_mem hnodup he
    have hgroup := h.get? e.1
    rw [hget, Option.getD_some] at hgroup
    rw [← hgroup]
  calc t.entries = t.entries.map id := (List.map_id _).symm
    _ = t.entries.map fun e => (e.1, l.filter fun a => key a = e.1) :=
      List.map_congr_left hentry
    _ = t.keys.map fun k => (k, l.filter fun a => key a = k) := by
      rw [Table.keys, List.map_map]
      rfl
    _ = _ := by rw [h.keys]

/-- Every element of the list is in exactly one group. -/
theorem sum_length_filter (key : α → κ) (l : List α) :
    ((l.map key).eraseDups.map fun k => (l.filter fun a => key a = k).length).sum = l.length := by
  have hcount : ∀ k, (l.filter fun a => key a = k).length = (l.map key).count k := by
    intro k
    rw [← List.countP_eq_length_filter, List.count, List.countP_map]
    rfl
  simp only [hcount]
  rw [((eraseDups_perm_dedup _).map _).sum_eq, List.sum_map_count_dedup_eq_length, List.length_map]

/-! ## Writing counts -/

/-- The keys of a table are those that were written, each where it was written first. -/
theorem keys_ofList (es : List (κ × α)) : (ofList es).keys = (es.map Prod.fst).eraseDups := by
  induction es using List.reverseRecOn with
  | nil => rfl
  | append_singleton es e ih =>
    rw [ofList, List.foldl_append, List.map_append]
    exact keys_put_of_keys ih e.1 e.2

/-- Of the values for a key, the last one stays. -/
theorem get?_ofList (es : List (κ × α)) (k : κ) :
    (ofList es).get? k = ((es.filter fun e => e.1 = k).getLast?).map Prod.snd := by
  induction es using List.reverseRecOn with
  | nil => rfl
  | append_singleton es e ih =>
    rw [ofList, List.foldl_append, List.foldl_cons, List.foldl_nil, get?_put, ← ofList, ih,
      List.filter_append]
    by_cases hk : k = e.1
    · simp [hk]
    · simp [hk, Ne.symm hk]

/-- Writing an entry takes what was under its key out of the sum. -/
theorem sum_write (k : κ) (n : Int) (es : List (κ × Int)) :
    ((write k n es).map Prod.snd).sum = (es.map Prod.snd).sum - (lookup k es).getD 0 + n := by
  induction es with
  | nil => simp [write, lookup]
  | cons e es ih =>
    by_cases hk : e.1 = k
    · simp [write, lookup, hk, Int.add_comm]
    · simp [write, lookup, hk, ih]
      omega

/-- What an earlier entry wrote to a key is there. -/
theorem exists_get?_ofList {es : List (κ × α)} {k : κ} (h : k ∈ es.map Prod.fst) :
    ∃ e ∈ es, (ofList es).get? k = some e.2 := by
  obtain ⟨e, he, rfl⟩ := List.mem_map.1 h
  have hne : es.filter (fun e' => e'.1 = e.1) ≠ [] :=
    List.ne_nil_of_mem (List.mem_filter.2 ⟨he, decide_eq_true rfl⟩)
  refine ⟨_, (List.mem_filter.1 (List.getLast_mem hne)).1, ?_⟩
  rw [get?_ofList, List.getLast?_eq_some_getLast hne, Option.map_some]

theorem get?_ofList_of_notMem {es : List (κ × α)} {k : κ} (h : k ∉ es.map Prod.fst) :
    (ofList es).get? k = none := by
  have hnil : es.filter (fun e => e.1 = k) = [] :=
    List.filter_eq_nil_iff.2 fun e he heq =>
      h (of_decide_eq_true heq ▸ List.mem_map_of_mem he)
  rw [get?_ofList, hnil]
  rfl

/-- Positive counts add up to what they did exactly if none is overwritten, and otherwise to less.
-/
theorem sum_ofList (es : List (κ × Int)) (hpos : ∀ e ∈ es, 0 < e.2) :
    (ofList es).values.sum ≤ (es.map Prod.snd).sum ∧
      ((ofList es).values.sum = (es.map Prod.snd).sum ↔ (es.map Prod.fst).Nodup) := by
  induction es using List.reverseRecOn with
  | nil => exact ⟨Int.le_refl _, by simp [ofList, values, empty]⟩
  | append_singleton es e ih =>
    obtain ⟨hle, hiff⟩ := ih fun e' he' => hpos e' (List.mem_append_left _ he')
    have hsum : (ofList (es ++ [e])).values.sum =
        (ofList es).values.sum - ((ofList es).get? e.1).getD 0 + e.2 := by
      rw [ofList, List.foldl_append]
      exact sum_write e.1 e.2 _
    rw [hsum, List.map_append, List.map_append, List.sum_append, List.map_singleton,
      List.map_singleton, List.sum_singleton, List.nodup_append]
    by_cases hkey : e.1 ∈ es.map Prod.fst
    · -- a positive count is overwritten
      obtain ⟨e', he', hget⟩ := exists_get?_ofList hkey
      have hlost := hpos e' (List.mem_append_left _ he')
      rw [hget, Option.getD_some]
      refine ⟨by omega, fun heq => by omega, fun hnodup => ?_⟩
      exact absurd rfl (hnodup.2.2 e.1 hkey e.1 (List.mem_singleton_self _))
    · rw [get?_ofList_of_notMem hkey, Option.getD_none]
      refine ⟨by omega, fun heq => ⟨hiff.1 (by omega), List.nodup_singleton _, ?_⟩,
        fun hnodup => ?_⟩
      · intro a ha b hb heq
        exact hkey (List.mem_singleton.1 hb ▸ heq ▸ ha)
      · have heq := hiff.2 hnodup.1
        omega

end Metrology.Table
