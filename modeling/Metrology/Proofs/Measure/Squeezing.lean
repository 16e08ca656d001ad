import Mathlib.Data.List.SplitBy
import Metrology.Proofs.Expression.Terms
import Metrology.Proofs.Text.Replacing

/-!
# Texts without repeated operators

Squeezing reduces every maximal run of an operator to one character (`squeeze_eq_flatMap`). It is
what replacing two operators in a row by one comes to when this is done over and over, first for one
operator and then for the other (`Undoubled.squeeze`, `undoubled_squeeze`): a replacement leaves the
runs where they are and makes the text shorter, and what is done for one operator is not undone for
the other. Squeezing the parts of a text first makes no difference to the whole
(`squeeze_append_squeeze`).
-/

namespace Metrology

open Text

/-! ## Character by character -/

/-- A character in front of a text, unless the text begins with the same character and it is of the
kind that is not repeated. -/
def pushed (p : Char → Bool) (c : Char) (s : List Char) : List Char :=
  if p c = true ∧ s.head? = some c then s else c :: s

/-- A text in which no character of the kind is repeated. -/
def reduced (p : Char → Bool) (s : List Char) : List Char :=
  s.foldr (pushed p) []

section Reduced

variable {p q : Char → Bool} {c : Char} {s t : List Char}

theorem reduced_cons (p : Char → Bool) (c : Char) (s : List Char) :
    reduced p (c :: s) = pushed p c (reduced p s) :=
  rfl

/-- A character that would repeat the first one is left out. -/
theorem pushed_of_head? (hc : p c = true) (hs : s.head? = some c) : pushed p c s = s :=
  if_pos ⟨hc, hs⟩

/-- Any other character is put in front. -/
theorem pushed_of_ne (h : p c = true → s.head? ≠ some c) : pushed p c s = c :: s :=
  if_neg fun hs => h hs.1 hs.2

theorem head?_pushed (p : Char → Bool) (c : Char) (s : List Char) :
    (pushed p c s).head? = some c := by
  unfold pushed
  split
  · rename_i h
    exact h.2
  · rfl

/-- Putting a character in front twice is putting it there once. -/
theorem pushed_pushed (hc : p c = true) (s : List Char) :
    pushed p c (pushed p c s) = pushed p c s :=
  pushed_of_head? hc (head?_pushed p c s)

/-- Reducing leaves the first character. -/
theorem head?_reduced (p : Char → Bool) (s : List Char) : (reduced p s).head? = s.head? := by
  cases s with
  | nil => rfl
  | cons c s => exact head?_pushed p c _

/-- Reducing what stands in front first makes no difference. -/
theorem foldr_reduced (p : Char → Bool) (s t : List Char) :
    (reduced p s).foldr (pushed p) t = s.foldr (pushed p) t := by
  induction s with
  | nil => rfl
  | cons c s ih =>
    rw [reduced_cons, List.foldr_cons]
    by_cases h : p c = true ∧ (reduced p s).head? = some c
    · -- the character is the first one of the rest as well
      obtain ⟨rest, hrest⟩ := List.head?_eq_some_iff.1 h.2
      rw [pushed_of_head? h.1 h.2, ← ih, hrest, List.foldr_cons, pushed_pushed h.1]
    · rw [pushed, if_neg h, List.foldr_cons, ih]

/-- Reducing the parts first does not change what the whole is reduced to. -/
theorem reduced_append_reduced (p : Char → Bool) (s t : List Char) :
    reduced p (reduced p s ++ reduced p t) = reduced p (s ++ t) := by
  have hidem : reduced p (reduced p t) = reduced p t := foldr_reduced p t []
  have hback (s t : List Char) : reduced p (s ++ t) = s.foldr (pushed p) (reduced p t) :=
    List.foldr_append
  rw [hback, hidem, foldr_reduced, hback]

/-- Reducing characters of one kind and then those of another reduces both. -/
theorem reduced_reduced (p q : Char → Bool) (s : List Char) :
    reduced q (reduced p s) = reduced (fun c => p c || q c) s := by
  induction s with
  | nil => rfl
  | cons c s ih =>
    have hhead : (reduced (fun c => p c || q c) s).head? = (reduced p s).head? := by
      rw [head?_reduced, head?_reduced]
    rw [reduced_cons, reduced_cons, ← ih]
    rw [← ih] at hhead
    -- the first reduction drops the character, and so does the joint one
    by_cases h : p c = true ∧ (reduced p s).head? = some c
    · rw [pushed_of_head? h.1 h.2, pushed_of_head? (by rw [h.1]; rfl) (hhead.trans h.2)]
    · rw [pushed, if_neg h, reduced_cons]
      cases hp : p c with
      | true =>
        have hne : (reduced q (reduced p s)).head? ≠ some c := fun hs => h ⟨hp, hhead ▸ hs⟩
        rw [pushed_of_ne fun _ => hne, pushed_of_ne fun _ => hne]
      | false => simp only [pushed, hp, Bool.false_or]

/-- A text in which a character is not repeated stays as it is. -/
theorem reduced_of_not_doubled (h : ¬[c, c] <:+: s) : reduced (· == c) s = s := by
  induction s with
  | nil => rfl
  | cons d s ih =>
    rw [reduced_cons, ih fun hs => h (List.infix_cons hs)]
    refine pushed_of_ne fun hd hs => h ?_
    obtain rfl : d = c := by simpa using hd
    obtain ⟨rest, rfl⟩ := List.head?_eq_some_iff.1 hs
    exact (List.prefix_append [d, d] rest).isInfix

/-- Squeezing reduces the operators. -/
theorem squeeze_eq_reduced (s : List Char) : squeeze s = reduced Join.isOperator s := by
  fun_induction squeeze s with
  | case1 => rfl
  | case2 c => exact (pushed_of_ne (by simp)).symm
  | case3 c d s h ih =>
    obtain ⟨rfl, hop⟩ : c = d ∧ Join.isOperator c = true := by
      simpa [Join.isOperator] using h
    rw [reduced_cons, ih, pushed_of_head? hop (head?_reduced _ _)]
  | case4 c d s h ih =>
    rw [reduced_cons, ih, pushed_of_ne]
    intro hop hhead
    rw [head?_reduced, List.head?_cons, Option.some.injEq] at hhead
    exact h (by simpa [Join.isOperator, hhead] using hop)

end Reduced

/-- Squeezing the parts of a text first makes no difference. -/
theorem squeeze_append_squeeze (s t : List Char) :
    squeeze (squeeze s ++ squeeze t) = squeeze (s ++ t) := by
  simp only [squeeze_eq_reduced, reduced_append_reduced]

/-- Squeezing a text again leaves it. -/
theorem squeeze_squeeze (s : List Char) : squeeze (squeeze s) = squeeze s := by
  rw [squeeze_eq_destutter, squeeze_eq_destutter, List.destutter_idem]

/-- What is squeezed has no operator twice in a row. -/
theorem not_infix_squeeze {c : Char} (hc : Join.isOperator c = true) (s : List Char) :
    ¬[c, c] <:+: squeeze s := by
  intro h
  rw [squeeze_eq_destutter] at h
  have hchain := List.IsChain.infix (List.isChain_destutter Join.Distinct s) h
  exact (List.isChain_cons_cons.1 hchain).1 ⟨rfl, hc⟩

/-! ## Run by run -/

/-- Where no operator repeats itself across the boundary, the parts are squeezed one by one. -/
theorem squeeze_append {s rest : List Char} (h : ∀ c, s.getLast? = some c →
    Join.isOperator c = true → rest.head? ≠ some c) :
    squeeze (s ++ rest) = squeeze s ++ squeeze rest := by
  fun_induction squeeze s with
  | case1 => rfl
  | case2 c =>
    cases rest with
    | nil => rfl
    | cons d rest =>
      -- the two parts do not meet in a run
      have hcd : ¬(c = d && (c = '*' || c = '/')) = true := by
        intro hcd
        obtain ⟨rfl, hop⟩ : c = d ∧ Join.isOperator c = true := by
          simpa [Join.isOperator] using hcd
        exact h c rfl hop rfl
      rw [List.singleton_append, squeeze, if_neg hcd, List.singleton_append]
  | case3 c d s hcd ih =>
    rw [List.cons_append, List.cons_append, squeeze, if_pos hcd, ← List.cons_append]
    exact ih (by simpa using h)
  | case4 c d s hcd ih =>
    rw [List.cons_append, List.cons_append, squeeze, if_neg hcd, ← List.cons_append,
      ih (by simpa using h), List.cons_append]

/-- One character of a run of operators, and any other run as it is. -/
def shortened : List Char → List Char
  | [] => []
  | c :: run => if Join.isOperator c = true then [c] else c :: run

/-- A run of one character is squeezed to what it is shortened to. -/
theorem squeeze_run {run : List Char} (h : run.IsChain fun c d => (c == d) = true) :
    squeeze run = shortened run := by
  induction run with
  | nil => rfl
  | cons c run ih =>
    cases run with
    | nil => rw [squeeze, shortened, ite_self]
    | cons d run =>
      obtain ⟨hcd, hrest⟩ := List.isChain_cons_cons.1 h
      obtain rfl : c = d := by simpa using hcd
      have hrun := ih hrest
      cases hop : Join.isOperator c with
      | true =>
        rw [squeeze, if_pos (by simpa [Join.isOperator] using hop), hrun, shortened, shortened,
          if_pos hop, if_pos hop]
      | false =>
        rw [squeeze, if_neg (by simpa [Join.isOperator] using hop), hrun, shortened, shortened,
          if_neg (by simp [hop]), if_neg (by simp [hop])]

/-- Runs of one character each, no two neighbours of the same one, are squeezed one by one. -/
theorem squeeze_flatten {runs : List (List Char)}
    (hequal : ∀ run ∈ runs, run.IsChain fun c d => (c == d) = true)
    (hmaximal : runs.IsChain fun a b => ∃ ha hb, (a.getLast ha == b.head hb) = false) :
    squeeze runs.flatten = runs.flatMap shortened := by
  induction runs with
  | nil => rfl
  | cons run runs ih =>
    have hrest := ih (fun run hrun => hequal run (List.mem_cons_of_mem _ hrun)) hmaximal.tail
    have hrun := squeeze_run (hequal run List.mem_cons_self)
    rw [List.flatten_cons, List.flatMap_cons, ← hrun, ← hrest]
    -- neighbouring runs differ, so no run goes on into the next
    refine squeeze_append fun c hlast _ hhead => ?_
    cases runs with
    | nil => cases hhead
    | cons next runs =>
      obtain ⟨⟨ha, hb, hne⟩, -⟩ := List.isChain_cons_cons.1 hmaximal
      rw [List.flatten_cons, List.head?_append_of_ne_nil _ hb, List.head?_eq_some_head hb] at hhead
      rw [List.getLast?_eq_some_getLast ha] at hlast
      rw [Option.some.inj hlast, Option.some.inj hhead, beq_self_eq_true] at hne
      cases hne

/-- Squeezing a text shortens its maximal runs. -/
theorem squeeze_eq_flatMap (s : List Char) :
    squeeze s = (s.splitBy (· == ·)).flatMap shortened := by
  have hruns := squeeze_flatten (fun run hrun => List.isChain_of_mem_splitBy hrun)
    (List.isChain_getLast_head_splitBy (· == ·) s)
  rwa [List.flatten_splitBy] at hruns

/-! ## Replacing over and over -/

/-- Two of a character in a row are replaced by one, over and over, as long as there are two in a
row anywhere: this leads from one text to the other. -/
inductive Undoubled (c : Char) : List Char → List Char → Prop
  | done {s : List Char} (h : ¬[c, c] <:+: s) : Undoubled c s s
  | again {s t : List Char} (h : [c, c] <:+: s)
      (ht : Undoubled c (replaceAll [c, c] [c] s) t) : Undoubled c s t

section Undoubled

variable {c : Char} {s t u : List Char}

/-- A replacement makes the text shorter. -/
theorem length_of_substituted (h : Substituted [([c, c], [c])] s t) :
    t.length ≤ s.length ∧ ([c, c] <:+: s → t.length < s.length) := by
  induction h with
  | nil => exact ⟨le_rfl, fun h => by simp at h⟩
  | key hk _ ih =>
    obtain ⟨rfl, rfl⟩ := Prod.mk.inj (List.mem_singleton.1 hk)
    have hle := ih.1
    simp only [List.length_append, List.length_cons, List.length_nil]
    omega
  | @char d s t hd _ ih =>
    have hnot : ¬[c, c] <+: d :: s := hd _ List.mem_cons_self
    refine ⟨Nat.succ_le_succ ih.1, fun h => Nat.succ_lt_succ (ih.2 ?_)⟩
    exact (List.infix_cons_iff.1 h).resolve_left hnot

/-- A replacement leaves the runs where they are. -/
theorem reduced_of_substituted {p : Char → Bool} (hc : p c = true)
    (h : Substituted [([c, c], [c])] s t) : reduced p t = reduced p s := by
  induction h with
  | nil => rfl
  | key hk _ ih =>
    obtain ⟨rfl, rfl⟩ := Prod.mk.inj (List.mem_singleton.1 hk)
    simp only [List.cons_append, List.nil_append, reduced_cons, ih, pushed_pushed hc]
  | char _ _ ih => rw [reduced_cons, reduced_cons, ih]

/-- Replacing a doubled character by one is one substitution. -/
theorem substituted_double (c : Char) (s : List Char) :
    Substituted [([c, c], [c])] s (replaceAll [c, c] [c] s) :=
  substituted_replaceAll (List.cons_ne_nil c [c]) [c] s

/-- Replacing over and over comes to an end. -/
theorem exists_undoubled (c : Char) (s : List Char) : ∃ t, Undoubled c s t := by
  induction hn : s.length using Nat.strongRecOn generalizing s with
  | ind n ih =>
    by_cases h : [c, c] <:+: s
    · have hlt := (length_of_substituted (substituted_double c s)).2 h
      obtain ⟨t, ht⟩ := ih _ (hn ▸ hlt) (replaceAll [c, c] [c] s) rfl
      exact ⟨t, .again h ht⟩
    · exact ⟨s, .done h⟩

/-- Replacing over and over leads to the text in which the character is not repeated. -/
theorem Undoubled.eq_reduced (h : Undoubled c s t) : t = reduced (· == c) s := by
  induction h with
  | done h => exact (reduced_of_not_doubled h).symm
  | again _ _ ih =>
    exact ih.trans (reduced_of_substituted (beq_self_eq_true c) (substituted_double c _))

/-- Replacing over and over, first for one operator and then for the other, squeezes a text. -/
theorem Undoubled.squeeze (h : Undoubled '*' s t) (h' : Undoubled '/' t u) :
    u = squeeze s := by
  rw [h'.eq_reduced, h.eq_reduced, reduced_reduced, squeeze_eq_reduced]
  rfl

/-- Both come to an end. -/
theorem undoubled_squeeze (s : List Char) :
    ∃ t, Undoubled '*' s t ∧ Undoubled '/' t (squeeze s) := by
  obtain ⟨t, ht⟩ := exists_undoubled '*' s
  obtain ⟨u, hu⟩ := exists_undoubled '/' t
  exact ⟨t, ht, ht.squeeze hu ▸ hu⟩

end Undoubled

end Metrology
