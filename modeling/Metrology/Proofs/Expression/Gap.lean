import Metrology.Proofs.Expression.Chain
import Metrology.Proofs.Measure.Squeezing

/-!
# Texts with an empty term

Between two operators in a row there is an empty term, and so there is in front of an operator at
the beginning of a text and behind one at its end. Repeated operators do not count, so it takes a
division sign behind a multiplication sign (`Gapped`), or an operator at an end (`broken_of_marked`,
`broken_of_led`). What has such a gap keeps it whatever is put in front of it or behind it.
-/

namespace Metrology

open Text

/-- A division sign stands behind a multiplication sign, or begins the text. -/
def Gapped (s : List Char) : Prop :=
  ['*', '/'] <:+: '*' :: s

section

variable {s t : List Char}

/-- A gap is a division sign at the beginning or behind a multiplication sign. -/
theorem gapped_iff : Gapped s ↔ s.head? = some '/' ∨ ['*', '/'] <:+: s := by
  rw [Gapped, List.infix_cons_iff, List.cons_prefix_cons]
  refine or_congr ⟨fun h => ?_, fun h => ?_⟩ Iff.rfl
  · obtain ⟨rest, rfl⟩ := h.2
    rfl
  · obtain ⟨rest, rfl⟩ := List.head?_eq_some_iff.1 h
    exact ⟨rfl, List.prefix_append ['/'] rest⟩

/-- What is put behind a gap does not close it. -/
theorem Gapped.append (h : Gapped s) (t : List Char) : Gapped (s ++ t) :=
  h.trans (List.prefix_append ('*' :: s) t).isInfix

/-- What is multiplied in front of a gap does not close it. -/
theorem Gapped.behind (h : Gapped s) (t : List Char) : Gapped (t ++ '*' :: s) :=
  List.infix_cons (h.trans (List.suffix_append t ('*' :: s)).isInfix)

/-- Shortening runs of operators leaves the first character. -/
theorem head?_squeeze (s : List Char) : (squeeze s).head? = s.head? := by
  rw [squeeze_eq_reduced, head?_reduced]

/-- Two different characters in a row are not squeezed. -/
theorem infix_squeeze {c d : Char} (hne : c ≠ d) (h : [c, d] <:+: s) : [c, d] <:+: squeeze s := by
  fun_induction squeeze s with
  | case1 => exact h
  | case2 a => exact h
  | case3 a b s hab ih =>
    obtain ⟨rfl, -⟩ : a = b ∧ _ := by simpa using hab
    rcases List.infix_cons_iff.1 h with hprefix | hrest
    · obtain ⟨rest, hrest⟩ := hprefix
      simp only [List.cons_append, List.cons.injEq] at hrest
      -- the two signs differ, so they are not the run that is shortened
      exact absurd (hrest.1.trans hrest.2.1.symm) hne
    · exact ih hrest
  | case4 a b s hab ih =>
    rcases List.infix_cons_iff.1 h with hprefix | hrest
    · obtain ⟨rest, hrest⟩ := hprefix
      simp only [List.cons_append, List.cons.injEq] at hrest
      obtain ⟨rfl, rfl, -⟩ := hrest
      -- the second sign may stand for a longer run of it
      obtain ⟨rest, hrest⟩ := List.head?_eq_some_iff.1 (head?_squeeze (d :: s))
      rw [hrest]
      exact (List.prefix_append [c, d] rest).isInfix
    · exact List.infix_cons (ih hrest)

/-- Shortening runs of one operator leaves a gap, which is between two different ones. -/
theorem Gapped.squeeze (h : Gapped s) : Gapped (squeeze s) := by
  rw [gapped_iff] at h ⊢
  rcases h with hhead | hinner
  · exact .inl ((head?_squeeze s).trans hhead)
  · exact .inr (infix_squeeze (by decide) hinner)

/-- An opening bracket is not in a gap, and without it the gap is still there. -/
theorem Gapped.withoutOpening (h : Gapped s) : Gapped (Expression.withoutOpening s) := by
  unfold Expression.withoutOpening
  split
  · rename_i hhead
    obtain ⟨rest, rfl⟩ := List.head?_eq_some_iff.1 hhead
    -- the parenthesis is neither of the two signs
    rcases gapped_iff.1 h with hslash | hinner
    · cases hslash
    · rcases List.infix_cons_iff.1 hinner with hprefix | hrest
      · simp at hprefix
      · exact List.infix_cons hrest
  · exact h

/-- A closing bracket is not in a gap, and without it the gap is still there. -/
theorem Gapped.withoutClosing (h : Gapped s) : Gapped (Expression.withoutClosing s) := by
  unfold Expression.withoutClosing
  split
  · rename_i hlast
    obtain ⟨before, rfl⟩ := List.getLast?_eq_some_iff.1 hlast
    rw [List.dropLast_concat]
    rw [Gapped, ← List.cons_append, List.infix_concat_iff] at h
    rcases h with hsuffix | hrest
    · obtain ⟨front, hfront⟩ := hsuffix
      have hsign := congrArg List.getLast? hfront
      rw [List.getLast?_append_of_ne_nil _ (by simp), List.getLast?_concat] at hsign
      cases hsign
    · exact hrest
  · exact h

/-- An empty piece stays empty behind further pieces. -/
theorem nil_mem_splitOnP_append {α : Type} {f : α → Bool} {a : α} (ha : f a = true) {l : List α}
    (h : [] ∈ l.splitOnP f) (before : List α) : [] ∈ (before ++ a :: l).splitOnP f := by
  rw [List.splitOnP_append_cons _ _ ha]
  exact List.mem_append_right _ h

/-- In front of a separator at the beginning stands an empty piece. -/
theorem nil_mem_splitOnP_cons {α : Type} {f : α → Bool} {a : α} (ha : f a = true) (l : List α) :
    [] ∈ (a :: l).splitOnP f := by
  rw [List.splitOnP_cons_eq_if_modifyHead, if_pos ha]
  exact List.mem_cons_self

/-- The text is not empty, but a term of it is. -/
structure Expression.Broken (text : String) : Prop where
  ne : text ≠ ""
  nil_mem : [] ∈ Expression.pieces text

/-- A gap leaves an empty term. -/
theorem Gapped.broken {text : String} (h : Gapped text.toList) : Expression.Broken text := by
  refine ⟨?_, ?_⟩
  · rintro rfl
    simpa using gapped_iff.1 h
  · have hcondensed : Gapped (Expression.condensed text) := by
      rw [Expression.condensed, ← squeeze_eq_destutter]
      exact h.withoutOpening.withoutClosing.squeeze
    rw [Expression.pieces]
    rcases gapped_iff.1 hcondensed with hhead | ⟨before, after, hsplit⟩
    · obtain ⟨rest, hrest⟩ := List.head?_eq_some_iff.1 hhead
      rw [hrest]
      exact nil_mem_splitOnP_cons rfl rest
    · rw [← hsplit, List.append_assoc]
      exact nil_mem_splitOnP_append rfl (nil_mem_splitOnP_cons rfl after) before

end

/-! ## Operators at the ends -/

section

variable {c : Chain (List Char)} (h : ∀ p ∈ c.items, Plain p)
include h

/-- No operator is repeated where a sign stands in front of the text of a chain. -/
theorem isChain_marked : ('*' :: c.text).IsChain Join.Distinct := by
  refine (Chain.isChain_text h).cons fun d hd => ?_
  rw [Chain.head?_text h] at hd
  rintro ⟨rfl, hop⟩
  rw [(Chain.plain_head h).isOperator _ (List.mem_of_head? hd)] at hop
  cases hop

/-- Nor where one stands behind it. -/
theorem isChain_led : (c.text ++ ['*']).IsChain Join.Distinct := by
  -- what stands behind the sign in a longer chain does not matter
  have hplain : Plain ['m'] := by decide +kernel
  have hchain := Chain.isChain_text (Denomination.Spelled.plain_append h
    (fun p hp => List.mem_singleton.1 hp ▸ hplain : ∀ p ∈ (Chain.one ['m']).items, Plain p) .times)
  rw [Chain.text_append, Chain.text, Join.char, ← List.singleton_append,
    ← List.append_assoc] at hchain
  exact hchain.left_of_append

/-- A sign in front of plain pieces is not a repeated operator. -/
theorem squeezed_marked :
    squeezed (String.ofList ('*' :: c.text)) = String.ofList ('*' :: c.text) := by
  rw [squeezed, String.toList_ofList, squeeze_eq_destutter,
    List.destutter_of_isChain _ _ (isChain_marked h)]

/-- A sign behind plain pieces is not a repeated operator. -/
theorem squeezed_led :
    squeezed (String.ofList (c.text ++ ['*'])) = String.ofList (c.text ++ ['*']) := by
  rw [squeezed, String.toList_ofList, squeeze_eq_destutter,
    List.destutter_of_isChain _ _ (isChain_led h)]

/-- In front of a sign at the beginning there is an empty term. -/
theorem broken_of_marked : Expression.Broken (String.ofList ('*' :: c.text)) := by
  have hlast : ('*' :: c.text).getLast? ≠ some ')' := by
    rw [List.getLast?_cons_of_ne_nil (Chain.text_ne_nil h)]
    exact Chain.getLast?_text h
  refine ⟨fun hempty => by simpa using congrArg String.toList hempty, ?_⟩
  rw [Expression.pieces, Expression.condensed, String.toList_ofList, Expression.withoutOpening,
    if_neg (by simp), Expression.withoutClosing, if_neg hlast,
    List.destutter_of_isChain _ _ (isChain_marked h)]
  exact nil_mem_splitOnP_cons rfl _

/-- Behind a sign at the end there is an empty term. -/
theorem broken_of_led : Expression.Broken (String.ofList (c.text ++ ['*'])) := by
  have hhead : (c.text ++ ['*']).head? ≠ some '(' := by
    rw [List.head?_append_of_ne_nil _ (Chain.text_ne_nil h), Chain.head?_text h]
    exact (Chain.plain_head h).opening
  refine ⟨fun hempty => by simpa using congrArg String.toList hempty, ?_⟩
  rw [Expression.pieces, Expression.condensed, String.toList_ofList, Expression.withoutOpening,
    if_neg hhead, Expression.withoutClosing, if_neg (by simp),
    List.destutter_of_isChain _ _ (isChain_led h)]
  exact nil_mem_splitOnP_append rfl (by simp) _

end

end Metrology
