import Mathlib.Data.List.Basic
import Metrology.Text.Search

/-!
# What is found in a text

A text begins or ends with another one exactly if something is left without it, and it is cut at a
mark exactly if the mark occurs in it.
-/

namespace Metrology.Text

theorem dropStart?_eq_some_iff {start s t : List Char} :
    dropStart? start s = some t ↔ s = start ++ t := by
  fun_induction dropStart? start s with
  | case1 s => simp
  | case2 p start => simp
  | case3 start c s ih => simp [ih]
  | case4 p start c s h => simp [Ne.symm h]

/-- What stands before an ending is what the ending completes. -/
theorem dropEnding?_eq_some_iff {ending s t : List Char} :
    dropEnding? ending s = some t ↔ s = t ++ ending := by
  simp [dropEnding?, dropStart?_eq_some_iff, List.reverse_eq_iff]

/-- A text is cut at the first mark. -/
theorem cutFirst?_append {mark : Char} {before : List Char} (h : mark ∉ before)
    (rest : List Char) : cutFirst? mark (before ++ mark :: rest) = some (before, rest) := by
  induction before with
  | nil => simp [cutFirst?]
  | cons c before ih =>
    obtain ⟨hc, hbefore⟩ := not_or.1 (List.mem_cons.not.1 h)
    simp [cutFirst?, Ne.symm hc, ih hbefore]

theorem cutFirst?_eq_none {mark : Char} {s : List Char} (h : mark ∉ s) :
    cutFirst? mark s = none := by
  induction s with
  | nil => rfl
  | cons c s ih =>
    obtain ⟨hc, hs⟩ := not_or.1 (List.mem_cons.not.1 h)
    simp [cutFirst?, Ne.symm hc, ih hs]

/-- A text that has no mark is not cut. -/
theorem cutLast?_eq_none_iff {mark : Char} {s : List Char} :
    cutLast? mark s = none ↔ mark ∉ s := by
  induction s with
  | nil => simp [cutLast?]
  | cons c s ih =>
    unfold cutLast?
    cases hs : cutLast? mark s with
    | some p =>
      -- a cut further on shows that there is a mark
      have hmem : mark ∈ s := by
        by_contra hn
        rw [ih.2 hn] at hs
        cases hs
      simp [hmem]
    | none =>
      have hmem := ih.1 hs
      by_cases h : c = mark
      · simp [h]
      · simp [h, Ne.symm h, hmem]

/-- A text is cut at the last mark. -/
theorem cutLast?_append {mark : Char} {after : List Char} (h : mark ∉ after)
    (before : List Char) : cutLast? mark (before ++ mark :: after) = some (before, after) := by
  induction before with
  | nil => simp [cutLast?, cutLast?_eq_none_iff.2 h]
  | cons c before ih => rw [List.cons_append, cutLast?, ih]

/-- Cutting at the last mark leaves none behind it. -/
theorem eq_append_of_cutLast? {mark : Char} {s before after : List Char}
    (h : cutLast? mark s = some (before, after)) : s = before ++ mark :: after ∧ mark ∉ after := by
  induction s generalizing before with
  | nil => cases h
  | cons c s ih =>
    unfold cutLast? at h
    cases hs : cutLast? mark s with
    | some p =>
      rw [hs] at h
      obtain ⟨rfl, rfl⟩ : c :: p.1 = before ∧ p.2 = after := by simpa using h
      obtain ⟨heq, hmem⟩ := ih hs
      exact ⟨by rw [List.cons_append, ← heq], hmem⟩
    | none =>
      rw [hs] at h
      obtain ⟨rfl, rfl, rfl⟩ : c = mark ∧ [] = before ∧ s = after := by simpa using h
      exact ⟨rfl, cutLast?_eq_none_iff.1 hs⟩

end Metrology.Text
