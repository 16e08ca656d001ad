import Mathlib
import Metrology.Proofs.Dimension.Mapping
import Metrology.Proofs.Text.Whole

/-!
# Dimensions as text

The text of a dimension joins its factors, each of which is a name, a caret and a numeral. Names may
contain anything but the pipe character, which no text has, so a name can look like several factors:
a base dimension named `metre^1 * second` has the same text as the product of metre and second. As
long as no name hides a factor in this way, dimensions with the same text are equal
(`Basis.Sound.describe_injOn`).
-/

namespace Metrology

open Text

/-- What stands between two factors. -/
def between : List Char := [' ', '*', ' ']

/-- Part of the name looks like the end of a factor with another one behind it. -/
def Hides (name : String) : Prop :=
  ∃ n : Int, '^' :: ((toString n).toList ++ between) <:+: name.toList

/-- The characters of a factor. -/
def spelled (f : String × Int) : List Char :=
  f.1.toList ++ '^' :: (toString f.2).toList

/-- The characters of factors that stand behind another one. -/
def continued (fs : List (String × Int)) : List Char :=
  fs.flatMap fun f => between ++ spelled f

namespace Basis

/-! ## Reading a factor from its text -/

/-- A text ends, or goes on with another factor. -/
def Ends (s : List Char) : Prop :=
  s = [] ∨ ∃ t, s = between ++ t

theorem ends_continued (fs : List (String × Int)) : Ends (continued fs) := by
  cases fs with
  | nil => exact .inl rfl
  | cons f fs => exact .inr ⟨spelled f ++ continued fs, by simp [continued]⟩

variable {a b : String} {m n : Int} {s t u : List Char}

/-- A whole number is written with digits and a sign only. -/
theorem not_mem_toString {c : Char} (hc : c ≠ '-') (hd : c.isDigit = false) (n : Int) :
    c ∉ (toString n).toList := by
  intro h
  rcases mem_toString h with rfl | h
  · exact hc rfl
  · rw [hd] at h
    cases h

/-- The numeral at the beginning ends where no character of a numeral follows. -/
theorem takeWhile_toString_append (h : Ends s) :
    ((toString n).toList ++ s).takeWhile (· ≠ ' ') = (toString n).toList := by
  have hnumeral : ∀ c ∈ (toString n).toList, decide (c ≠ ' ') = true := fun c hc =>
    decide_eq_true fun heq => not_mem_toString (by decide) (by decide) n (heq ▸ hc)
  rw [List.takeWhile_append_of_pos hnumeral]
  rcases h with rfl | ⟨t, rfl⟩ <;> simp [between]

/-- A numeral and what stands behind it can be read from their text. -/
theorem toString_append_injective (hs : Ends s) (ht : Ends t)
    (h : (toString m).toList ++ s = (toString n).toList ++ t) : m = n ∧ s = t := by
  have hdigits := congrArg (List.takeWhile (· ≠ ' ')) h
  rw [takeWhile_toString_append hs, takeWhile_toString_append ht] at hdigits
  rw [hdigits] at h
  refine ⟨?_, List.append_cancel_left h⟩
  rw [String.toList_inj, Int.toString_eq_repr, Int.toString_eq_repr] at hdigits
  exact Int.repr_injective hdigits

/-- A caret behind a numeral stands behind the beginning of another factor. -/
theorem prefix_of_toString_append (hs : Ends s)
    (h : (toString m).toList ++ s = u ++ '^' :: t) : (toString m).toList ++ between <+: u := by
  rcases List.append_eq_append_iff.1 h with ⟨v, rfl, hv⟩ | ⟨v, hm, hv⟩
  · rcases hs with rfl | ⟨w, rfl⟩
    · simp at hv
    · -- the caret stands behind the three characters between factors, none of which it is
      rcases v with _ | ⟨x, _ | ⟨y, _ | ⟨z, v⟩⟩⟩
      all_goals simp [between] at hv
      obtain ⟨rfl, rfl, rfl, -⟩ := hv
      exact ⟨v, by simp [between]⟩
  · exfalso
    rcases v with _ | ⟨x, v⟩
    · rcases hs with rfl | ⟨w, rfl⟩ <;> simp [between] at hv
    · obtain rfl : '^' = x := by simpa using (List.cons.inj hv).1
      have hcaret : '^' ∈ (toString m).toList := by
        rw [hm]
        exact List.mem_append_right _ List.mem_cons_self
      exact not_mem_toString (by decide) (by decide) m hcaret

/-- Where the shorter of two names is followed by a caret, the longer one hides its factor. -/
theorem hides_of_lt (hs : Ends s) (hlt : a.toList.length < b.toList.length)
    (h : spelled (a, m) ++ s = spelled (b, n) ++ t) : Hides b := by
  simp only [spelled, List.append_assoc, List.cons_append] at h
  rcases List.append_eq_append_iff.1 h with ⟨v, hb, hv⟩ | ⟨v, ha, -⟩
  · rcases v with _ | ⟨x, v⟩
    · simp [hb] at hlt
    · obtain ⟨rfl, hrest⟩ := List.cons.inj hv
      obtain ⟨w, rfl⟩ := prefix_of_toString_append hs hrest
      exact ⟨m, a.toList, w, by simp [hb]⟩
  · rw [ha, List.length_append] at hlt
    omega

/-- A factor and what stands behind it can be read from their text, if the name hides no factor. -/
theorem spelled_append_injective (ha : ¬ Hides a) (hb : ¬ Hides b) (hs : Ends s) (ht : Ends t)
    (h : spelled (a, m) ++ s = spelled (b, n) ++ t) : a = b ∧ m = n ∧ s = t := by
  have hlength : a.toList.length = b.toList.length := by
    rcases Nat.lt_trichotomy a.toList.length b.toList.length with hlt | heq | hlt
    · exact absurd (hides_of_lt hs hlt h) hb
    · exact heq
    · exact absurd (hides_of_lt ht hlt h.symm) ha
  simp only [spelled, List.append_assoc, List.cons_append] at h
  obtain ⟨hname, hrest⟩ := List.append_inj h hlength
  exact ⟨String.toList_inj.1 hname, toString_append_injective hs ht (List.cons.inj hrest).2⟩

/-! ## Reading the factors of a dimension -/

variable {fs gs : List (String × Int)}

/-- Renderings are read in one way only where no name hides a factor. -/
theorem continued_injective (hf : ∀ f ∈ fs, ¬ Hides f.1) (hg : ∀ g ∈ gs, ¬ Hides g.1)
    (h : continued fs = continued gs) : fs = gs := by
  induction fs generalizing gs with
  | nil => cases gs with
    | nil => rfl
    | cons g gs => simp [continued, between] at h
  | cons f fs ih => cases gs with
    | nil => simp [continued, between] at h
    | cons g gs =>
      simp only [continued, List.flatMap_cons, List.append_assoc] at h
      obtain ⟨hname, hexponent, hrest⟩ := spelled_append_injective (hf f List.mem_cons_self)
        (hg g List.mem_cons_self) (ends_continued fs) (ends_continued gs)
        (List.append_cancel_left h)
      rw [Prod.ext hname hexponent, ih (fun f hf' => hf f (List.mem_cons_of_mem _ hf'))
        (fun g hg' => hg g (List.mem_cons_of_mem _ hg')) hrest]

/-- A dimension is rendered as its factors with the separator between them. -/
theorem toList_describe (b : Basis) (d : Dimension) :
    (b.describe d).toList = between.intercalate ((b.factors d).map spelled) := by
  rw [describe, String.toList_intercalate, List.map_map]
  congr 2
  funext f
  simp [spelled]

theorem between_append_intercalate (f : String × Int) (fs : List (String × Int)) :
    between ++ between.intercalate ((f :: fs).map spelled) = continued (f :: fs) := by
  induction fs generalizing f with
  | nil => simp [continued]
  | cons g fs ih =>
    rw [List.map_cons, List.map_cons, List.intercalate_cons_cons, ← List.map_cons,
      List.append_assoc, ih]
    simp [continued]

/-- Factors whose names hide no factors can be read from their text. -/
theorem intercalate_injective (hf : ∀ f ∈ fs, ¬ Hides f.1) (hg : ∀ g ∈ gs, ¬ Hides g.1)
    (h : between.intercalate (fs.map spelled) = between.intercalate (gs.map spelled)) :
    fs = gs := by
  -- a rendering with a factor is not empty
  have hne : ∀ (f : String × Int) (fs : List (String × Int)),
      between.intercalate ((f :: fs).map spelled) ≠ [] := by
    intro f fs hnil
    have hcontinued := between_append_intercalate f fs
    rw [hnil] at hcontinued
    simp [continued, spelled] at hcontinued
  cases fs with
  | nil => cases gs with
    | nil => rfl
    | cons g gs => exact absurd h.symm (hne g gs)
  | cons f fs => cases gs with
    | nil => exact absurd h (hne f fs)
    | cons g gs =>
      -- the first separator is put in front, so that every factor stands behind one
      refine continued_injective hf hg ?_
      rw [← between_append_intercalate, h, between_append_intercalate]

/-- Over a basis whose names hide no factors, dimensions are told apart by their texts. -/
theorem Sound.describe_injOn {b : Basis} (h : b.Sound) (hnames : ∀ name ∈ b.names, ¬ Hides name) :
    Set.InjOn b.describe {d | d.Over b.size} := by
  intro d hd e he htext
  have hfactors : ∀ d, ∀ f ∈ b.factors d, ¬ Hides f.1 := fun d f hf =>
    hnames f.1 ((factors_sublist b d).subset (List.mem_map_of_mem hf))
  refine h.eq_of_factors_perm hd he (.of_eq (intercalate_injective (hfactors d) (hfactors e) ?_))
  rw [← toList_describe, ← toList_describe, htext]

end Basis

end Metrology
