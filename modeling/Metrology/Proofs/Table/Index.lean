import Metrology.Table

/-!
# Tables that index a list

A table *indexes* a list by a key when it holds, for every key that occurs, the last element with
that key, and lists the keys in the order in which they first occurred. It *groups* a list when it
holds all elements with a key, in their order. Both are kept by adding one element at the end of the
list and writing it to the table, which is all that a registry ever does to its tables.
-/

namespace Metrology.Table

variable {κ α : Type} [DecidableEq κ]

/-- The table holds the last element of the list for every key, under the keys in the order of their
first occurrence. -/
structure Indexes (t : Table κ α) (key : α → κ) (l : List α) : Prop where
  keys : t.keys = (l.map key).eraseDups
  get? : ∀ k, t.get? k = (l.filter fun a => key a = k).getLast?

/-- The table holds the elements of the list by their keys, under the keys in the order of their
first occurrence. -/
structure Groups (t : Table κ (List α)) (key : α → κ) (l : List α) : Prop where
  keys : t.keys = (l.map key).eraseDups
  get? : ∀ k, (t.get? k).getD [] = l.filter fun a => key a = k

/-! ## Writing -/

/-- What was put under a key is there, and nothing else changes. -/
theorem get?_put (t : Table κ α) (j k : κ) (a : α) :
    (t.put k a).get? j = if j = k then some a else t.get? j := by
  by_cases h : j = k
  · rw [if_pos h, h, get?_put_self]
  · rw [if_neg h, get?_put_of_ne t h]

/-- The distinct elements of a list with one more at its end. -/
theorem eraseDups_concat (ks : List κ) (k : κ) :
    (ks ++ [k]).eraseDups = if k ∈ ks then ks.eraseDups else ks.eraseDups ++ [k] := by
  rw [List.eraseDups_append]
  by_cases h : k ∈ ks
  · simp [List.removeAll, h]
  · simp [List.removeAll, h, List.eraseDups_cons]

theorem keys_put_of_keys {t : Table κ α} {ks : List κ} (h : t.keys = ks.eraseDups) (k : κ) (a : α) :
    (t.put k a).keys = (ks ++ [k]).eraseDups := by
  rw [keys_put, eraseDups_concat, h]
  simp only [List.mem_eraseDups]

theorem indexes_empty (key : α → κ) : (∅ : Table κ α).Indexes key [] :=
  ⟨rfl, fun _ => rfl⟩

/-- Writing an element to its key indexes the list with the element at its end. -/
theorem Indexes.put {t : Table κ α} {key : α → κ} {l : List α} (h : t.Indexes key l) (a : α) :
    (t.put (key a) a).Indexes key (l ++ [a]) := by
  refine ⟨?_, fun k => ?_⟩
  · rw [List.map_append]
    exact keys_put_of_keys h.keys (key a) a
  · -- the new element is the last one with its own key, and changes no other key
    rw [get?_put, List.filter_append]
    by_cases hk : k = key a
    · subst hk
      simp
    · rw [if_neg hk, h.get? k]
      simp [Ne.symm hk]

theorem groups_empty (key : α → κ) : (∅ : Table κ (List α)).Groups key [] :=
  ⟨rfl, fun _ => rfl⟩

/-- Adding an element at the end of its group groups the list with the element at its end. -/
theorem Groups.update {t : Table κ (List α)} {key : α → κ} {l : List α} (h : t.Groups key l)
    (a : α) : (t.update (key a) [] (· ++ [a])).Groups key (l ++ [a]) := by
  refine ⟨?_, fun k => ?_⟩
  · rw [List.map_append]
    exact keys_put_of_keys h.keys (key a) _
  · rw [Table.update, get?_put, List.filter_append]
    by_cases hk : k = key a
    · subst hk
      simp [h.get?]
    · rw [if_neg hk, h.get? k]
      simp [Ne.symm hk]

/-! ## Reading -/

/-- What is found by a key stands in the table. -/
theorem mem_of_lookup {k : κ} {a : α} {es : List (κ × α)} (h : lookup k es = some a) :
    (k, a) ∈ es := by
  induction es with
  | nil => cases h
  | cons e es ih =>
    by_cases hk : e.1 = k
    · have ha : e.2 = a := by simpa [lookup, hk] using h
      rw [← hk, ← ha]
      exact List.mem_cons_self
    · exact List.mem_cons_of_mem e (ih (by simpa [lookup, hk] using h))

/-- What a table holds under a key is one of its values. -/
theorem mem_values_of_get? {t : Table κ α} {k : κ} {a : α} (h : t.get? k = some a) :
    a ∈ t.values :=
  List.mem_map_of_mem (mem_of_lookup h)

/-- What an index holds under a key has that key. -/
theorem Indexes.key_of_get? {t : Table κ α} {key : α → κ} {l : List α} (h : t.Indexes key l)
    {k : κ} {a : α} (ha : t.get? k = some a) : key a = k := by
  rw [h.get? k] at ha
  have hm := List.mem_of_getLast? ha
  exact of_decide_eq_true (List.mem_filter.1 hm).2

end Metrology.Table
