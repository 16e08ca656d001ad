import Mathlib.Algebra.GroupWithZero.Nat
import Mathlib.Data.List.Destutter
import Metrology.Expression.Basic

/-!
# The terms of an expression

The terms of a text are the pieces between the operators of its condensed form, in which one
parenthesis at either end and repeated operators are left out. The definitions of the model work
through the text character by character; here they are related to functions on lists.
-/

namespace Metrology

open Text

/-- Whether a character is an operator. -/
def Join.isOperator (c : Char) : Bool := c = '*' || c = '/'

/-- Two neighbouring characters of a text without repeated operators. -/
def Join.Distinct (c d : Char) : Prop := ¬(c = d ∧ Join.isOperator c = true)

instance : DecidableRel Join.Distinct := fun c d => inferInstanceAs (Decidable ¬(c = d ∧ _))

/-- Reducing runs of operators leaves out what repeats the operator before it. -/
theorem squeeze_eq_destutter (s : List Char) : squeeze s = s.destutter Join.Distinct := by
  fun_induction squeeze s with
  | case1 => rfl
  | case2 c => rfl
  | case3 c d s h ih =>
    obtain ⟨rfl, hop⟩ : c = d ∧ Join.isOperator c = true := by
      simpa [Join.isOperator] using h
    rw [ih, List.destutter_cons', List.destutter_cons', List.destutter'_cons_neg]
    exact fun hd => hd ⟨rfl, hop⟩
  | case4 c d s h ih =>
    have hd : Join.Distinct c d := by
      rintro ⟨rfl, hop⟩
      exact h (by simpa [Join.isOperator] using hop)
    rw [ih, List.destutter_cons', List.destutter_cons', List.destutter'_cons_pos (h := hd)]

namespace Expression

/-- A text without one opening parenthesis at its beginning. -/
def withoutOpening (s : List Char) : List Char :=
  if s.head? = some '(' then s.tail else s

/-- A text without one closing parenthesis at its end. -/
def withoutClosing (s : List Char) : List Char :=
  if s.getLast? = some ')' then s.dropLast else s

/-- The condensed form of a text: without the parentheses at its ends and without repeated
operators. -/
def condensed (text : String) : List Char :=
  (withoutClosing (withoutOpening text.toList)).destutter Join.Distinct

theorem getD_dropStart? (s : List Char) : (dropStart? ['('] s).getD s = withoutOpening s := by
  cases s with
  | nil => rfl
  | cons c s =>
    by_cases h : '(' = c
    · simp [dropStart?, withoutOpening, ← h]
    · simp [dropStart?, withoutOpening, h, Ne.symm h]

theorem getD_dropEnding? (s : List Char) : (dropEnding? [')'] s).getD s = withoutClosing s := by
  obtain rfl | ⟨t, c, rfl⟩ := List.eq_nil_or_concat s
  · rfl
  · by_cases h : ')' = c
    · simp [dropEnding?, dropStart?, withoutClosing, ← h]
    · simp [dropEnding?, dropStart?, withoutClosing, h, Ne.symm h]

/-- Normalizing a text condenses it. -/
theorem normalize_eq_condensed (text : String) : normalize text.toList = condensed text := by
  simp only [normalize, condensed, getD_dropStart?, getD_dropEnding?, squeeze_eq_destutter]

theorem isOperator_eq_isSome (c : Char) : Join.isOperator c = (Join.ofChar? c).isSome := by
  unfold Join.isOperator Join.ofChar?
  by_cases h : c = '*'
  · simp [h]
  · by_cases h' : c = '/' <;> simp [h, h']

theorem ofChars_of_some {c : Char} {join : Join} (h : Join.ofChar? c = some join) (offset : Nat)
    (s : List Char) : ofChars offset (c :: s) =
      ⟨⟨[], offset⟩, (join, (ofChars (offset + 1) s).head) :: (ofChars (offset + 1) s).tail⟩ := by
  rw [ofChars, h]

theorem ofChars_of_none {c : Char} (h : Join.ofChar? c = none) (offset : Nat) (s : List Char) :
    ofChars offset (c :: s) =
      ⟨⟨c :: (ofChars (offset + 1) s).head.text, offset⟩, (ofChars (offset + 1) s).tail⟩ := by
  rw [ofChars, h]

/-- Pieces of a text with their offsets; one operator stands between neighbours. -/
def placed (offset : Nat) : List (List Char) → List Term
  | [] => []
  | p :: ps => ⟨p, offset⟩ :: placed (offset + p.length + 1) ps

/-- The terms are the pieces between the operators. -/
theorem terms_ofChars (offset : Nat) (s : List Char) :
    (ofChars offset s).terms = placed offset (s.splitOnP Join.isOperator) := by
  induction s generalizing offset with
  | nil => rfl
  | cons c s ih =>
    have hrest := ih (offset + 1)
    rw [List.splitOnP_cons_eq_if_modifyHead, isOperator_eq_isSome]
    cases h : Join.ofChar? c with
    | some join =>
      rw [ofChars_of_some h, if_pos (by rfl)]
      simpa [terms, placed] using hrest
    | none =>
      -- the character joins the first piece of the rest, which begins one place further on
      rw [ofChars_of_none h, if_neg (by simp)]
      cases hp : s.splitOnP Join.isOperator with
      | nil => exact absurd hp (List.splitOnP_ne_nil _ s)
      | cons p ps =>
        rw [hp] at hrest
        obtain ⟨hhead, htail⟩ := List.cons.inj hrest
        simp only [terms, htail, hhead, List.modifyHead_cons, placed, List.length_cons]
        rw [show offset + 1 + p.length + 1 = offset + (p.length + 1) + 1 by omega]

theorem texts_placed (offset : Nat) (ps : List (List Char)) :
    (placed offset ps).map (·.text) = ps := by
  induction ps generalizing offset with
  | nil => rfl
  | cons p ps ih => rw [placed, List.map_cons, ih]

/-- The first placed piece with a property stands behind pieces without it. -/
theorem find?_placed {f : List Char → Bool} {offset : Nat} {ps : List (List Char)} {t : Term}
    (h : (placed offset ps).find? (fun t => f t.text) = some t) :
    ∃ before p after, ps = before ++ p :: after ∧ (∀ q ∈ before, f q = false) ∧ f p = true ∧
      t.offset = offset + (before.map fun q => q.length + 1).sum := by
  -- over the pieces: each one moves the offset of the next
  induction ps generalizing offset with
  | nil => cases h
  | cons p ps ih =>
    rw [placed, List.find?_cons] at h
    cases hp : f p with
    | true =>
      simp only [hp, Option.some.injEq] at h
      exact ⟨[], p, ps, rfl, by simp, hp, by simp [← h]⟩
    | false =>
      simp only [hp] at h
      obtain ⟨before, q, after, rfl, hbefore, hq, ht⟩ := ih h
      refine ⟨p :: before, q, after, rfl, ?_, hq, ?_⟩
      · intro q' hq'
        rcases List.mem_cons.1 hq' with rfl | hq'
        · exact hp
        · exact hbefore q' hq'
      · rw [ht, List.map_cons, List.sum_cons]
        omega

/-- The joins are the operators. -/
theorem joins_ofChars (offset : Nat) (s : List Char) :
    (ofChars offset s).tail.map (·.1) = s.filterMap Join.ofChar? := by
  induction s generalizing offset with
  | nil => rfl
  | cons c s ih =>
    rw [List.filterMap_cons, ← ih (offset + 1)]
    cases h : Join.ofChar? c with
    | none => rw [ofChars_of_none h]
    | some join => rw [ofChars_of_some h, List.map_cons]

/-- The pieces of a text between its operators. -/
noncomputable def pieces (text : String) : List (List Char) :=
  (condensed text).splitOnP Join.isOperator

/-- What is split at some elements holds none of them. -/
theorem of_mem_splitOnP {α : Type} {f : α → Bool} {l s : List α} (hs : s ∈ l.splitOnP f) :
    ∀ a ∈ s, f a = false := by
  induction l generalizing s with
  | nil =>
    obtain rfl := List.mem_singleton.1 hs
    exact fun a ha => nomatch ha
  | cons b l ih =>
    rw [List.splitOnP_cons_eq_if_modifyHead] at hs
    split at hs
    · rcases List.mem_cons.1 hs with rfl | hs
      · exact fun a ha => nomatch ha
      · exact ih hs
    · rename_i hb
      cases hl : l.splitOnP f with
      | nil => exact absurd hl (List.splitOnP_ne_nil _ l)
      | cons first rest =>
        rw [hl] at hs ih
        rcases List.mem_cons.1 hs with rfl | hs
        · -- the first piece grows by an element that does not split
          intro a ha
          rcases List.mem_cons.1 ha with rfl | ha
          · simpa using hb
          · exact ih List.mem_cons_self a ha
        · exact ih (List.mem_cons_of_mem _ hs)

/-- No operator stands in a piece. -/
theorem isOperator_of_mem_pieces {text : String} {p : List Char} (hp : p ∈ pieces text) :
    ∀ c ∈ p, Join.isOperator c = false :=
  of_mem_splitOnP hp

/-- The operators of a text, in order. -/
def operators (text : String) : List Join :=
  (condensed text).filterMap Join.ofChar?

theorem terms_ofText (text : String) : (ofText text).terms = placed 0 (pieces text) := by
  rw [ofText, terms_ofChars, normalize_eq_condensed, pieces]

theorem texts_ofText (text : String) : (ofText text).terms.map (·.text) = pieces text := by
  rw [terms_ofText, texts_placed]

theorem joins_ofText (text : String) : (ofText text).tail.map (·.1) = operators text := by
  rw [ofText, joins_ofChars, normalize_eq_condensed, operators]

/-- There is an empty term where one of the pieces is vacant, and it is the first such piece. -/
theorem emptyTerm?_eq_some {text : String} {t : Term} (h : (ofText text).emptyTerm? = some t) :
    ∃ before p after, pieces text = before ++ p :: after ∧
      (∀ q ∈ before, isVacant q = false) ∧ isVacant p = true ∧
      t.offset = (before.map fun q => q.length + 1).sum := by
  rw [emptyTerm?, terms_ofText] at h
  obtain ⟨before, p, after, hsplit, hbefore, hp, ht⟩ := find?_placed h
  exact ⟨before, p, after, hsplit, hbefore, hp, by rw [ht, Nat.zero_add]⟩

theorem emptyTerm?_eq_none_iff {text : String} :
    (ofText text).emptyTerm? = none ↔ ∀ p ∈ pieces text, isVacant p = false := by
  rw [emptyTerm?, List.find?_eq_none, ← texts_ofText]
  simp

end Expression

end Metrology
