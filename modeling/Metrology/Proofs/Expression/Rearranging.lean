import Metrology.Proofs.Expression.Operand
import Metrology.Proofs.Numeral.Notation

/-!
# Operands in the order of the symbol

The symbol of the unit that operands make lists the operands in another order: a number that is
multiplied goes to the front, and a 1 is left out (`rearranged`). Numbers have no dimension, so the
operands make a unit of the same dimension in that order (`sum_rearranged`). Where no number other
than 1 goes to the front, they make an equal one (`factor_assembled_rearranged`).
-/

namespace Metrology

open Numeral

namespace Operand

/-! ## The order -/

/-- Whether the operand is a finite number or a unit. -/
def isFinite : Operand → Bool
  | .number x => Numeral.isFinite x
  | .unit _ => true

/-- Whether the operand multiplies by a number. -/
def scales : Join × Operand → Bool
  | (.times, .number _) => true
  | _ => false

/-- Whether the operand multiplies by a number other than 1, so that the number is written. -/
def moves : Join × Operand → Bool
  | (.times, .number x) => !(x == 1.0)
  | _ => false

/-- Operands in the order in which the symbol of their unit lists them: the number in front, the
numbers that are multiplied behind it from the last to the first, and the others as they stand. No 1
is multiplied. -/
def rearranged (head : Operand) (tail : List (Join × Operand)) : List (Join × Operand) :=
  [(Join.times, head)].filter moves ++ (tail.filter moves).reverse ++
    ((.times, head) :: tail).filter fun step => !scales step

/-- What operands make that begin with a multiplication. No operands make the unit of pure numbers.
-/
def assembled : List (Join × Operand) → Derived
  | [] => .known .one
  | (_, x) :: rest => evaluate x rest

/-- Whether the operands make a unit whose symbol has no gap. Behind the numbers in front, of which
the first one counts as multiplied, no unit may be divided by; if there is no unit at all, all
numbers are 1. Where several numbers stand in front, some number other than 1 is multiplied, there
or further on. -/
def Recovers (steps : List (Join × Operand)) : Prop :=
  match steps.dropWhile scales with
  | [] => ∀ step ∈ steps, moves step = false
  | (.times, _) :: _ => (steps.takeWhile scales).length ≤ 1 ∨ ∃ step ∈ steps, moves step = true
  | (.per, _) :: _ => False

/-- Of numbers that are all 1 nothing is listed. -/
theorem rearranged_eq_nil {head : Operand} {tail : List (Join × Operand)}
    (hscales : ∀ step ∈ (Join.times, head) :: tail, scales step = true)
    (hmoves : ∀ step ∈ (Join.times, head) :: tail, moves step = false) :
    rearranged head tail = [] := by
  have hnone : ∀ (p : Join × Operand → Bool) {l : List (Join × Operand)},
      (∀ step ∈ l, p step = false) → l.filter p = [] := fun p l h =>
    List.filter_eq_nil_iff.2 fun step hstep => by rw [h step hstep]; exact Bool.false_ne_true
  rw [rearranged, hnone moves fun step hstep => hmoves step (by simp_all),
    hnone moves fun step hstep => hmoves step (List.mem_cons_of_mem _ hstep),
    hnone (fun step => !scales step) fun step hstep => by rw [hscales step hstep]; rfl]
  rfl

@[simp] theorem scales_number (x : Float) : scales (.times, .number x) = true := rfl

@[simp] theorem scales_unit (join : Join) (u : Derived) : scales (join, .unit u) = false := by
  cases join <;> rfl

@[simp] theorem scales_per (x : Operand) : scales (.per, x) = false := by
  cases x <;> rfl

/-- What is written in front is a number that multiplies. -/
theorem scales_of_moves {step : Join × Operand} (h : moves step = true) : scales step = true := by
  obtain ⟨join, x⟩ := step
  cases join <;> cases x <;> first | rfl | cases h

/-- A number has no dimension. -/
theorem vector_of_scales {step : Join × Operand} (h : scales step = true) : step.2.vector = 0 := by
  obtain ⟨join, x⟩ := step
  cases join <;> cases x <;> first | rfl | cases h

/-! ## Numbers in front -/

variable {numbers after : List (Join × Operand)}

/-- A number behind which no unit is multiplied multiplies what the others make of the unit of pure
numbers. -/
theorem evaluate_number (k : Float) {steps : List (Join × Operand)}
    (h : ∀ u rest, steps ≠ (.times, .unit u) :: rest) : evaluate (.number k) steps =
      (steps.foldl (fun u step => joined u step.1 step.2) (.known .one)).times k := by
  match steps with
  | [] => rfl
  | (.times, .number x) :: rest => rfl
  | (.times, .unit u) :: rest => exact absurd rfl (h u rest)
  | (.per, x) :: rest => rfl

section

variable (h : ∀ step ∈ numbers, scales step = true)
include h

/-- Numbers alone leave no gap where all of them are 1: none of them is written. -/
theorem recovers_numbers : Recovers numbers ↔ ∀ step ∈ numbers, moves step = false := by
  have hdrop : (numbers ++ []).dropWhile scales = [] := List.dropWhile_append_of_pos h
  rw [List.append_nil] at hdrop
  rw [Recovers, hdrop]

/-- Numbers in front of a unit leave no gap where there is at most one, or where some number is
written that closes it. -/
theorem recovers_unit (u : Derived) : Recovers (numbers ++ (.times, .unit u) :: after) ↔
    numbers.length ≤ 1 ∨ ∃ step ∈ numbers ++ (.times, .unit u) :: after, moves step = true := by
  have hu : ¬scales (.times, .unit u) = true := Bool.false_ne_true
  rw [Recovers, List.dropWhile_append_of_pos h, List.takeWhile_append_of_pos h,
    List.dropWhile_cons_of_neg hu, List.takeWhile_cons_of_neg hu, List.append_nil]

/-- Numbers in front of a division leave a gap, for there is no unit to be divided. -/
theorem not_recovers_per (x : Operand) : ¬Recovers (numbers ++ (.per, x) :: after) := by
  have hx : ¬scales (.per, x) = true := by cases x <;> exact Bool.false_ne_true
  rw [Recovers, List.dropWhile_append_of_pos h, List.dropWhile_cons_of_neg hx]
  exact id

end

/-! ## The dimension -/

/-- Elements that add nothing may be left out of a sum. -/
theorem sum_map_filter {α β : Type} [AddMonoid β] {f : α → β} {p : α → Bool}
    (h : ∀ a, p a = false → f a = 0) (l : List α) : ((l.filter p).map f).sum = (l.map f).sum := by
  induction l with
  | nil => rfl
  | cons a l ih =>
    cases hp : p a with
    | true => rw [List.filter_cons_of_pos hp, List.map_cons, List.sum_cons, ih, List.map_cons,
        List.sum_cons]
    | false => rw [List.filter_cons_of_neg (by simp [hp]), ih, List.map_cons, List.sum_cons, h a hp,
        zero_add]

/-- What operands make has the sum of their signed vectors, the first one counted as multiplied. -/
theorem vector_evaluate_signed (head : Operand) (tail : List (Join × Operand)) :
    (evaluate head tail).denomination.dimension.vector =
      (((.times, head) :: tail).map fun step => step.1.sign • step.2.vector).sum := by
  rw [vector_evaluate, List.map_cons, List.sum_cons, Join.sign, one_smul]

/-- Rearranging moves or leaves out numbers only, and these have no exponents. -/
theorem sum_rearranged (head : Operand) (tail : List (Join × Operand)) :
    ((rearranged head tail).map fun step => step.1.sign • step.2.vector).sum =
      (((.times, head) :: tail).map fun step => step.1.sign • step.2.vector).sum := by
  have hzero : ∀ step, scales step = true → step.1.sign • step.2.vector = 0 := fun step h => by
    rw [vector_of_scales h, smul_zero]
  have hnone : ∀ l : List (Join × Operand), (∀ step ∈ l, scales step = true) →
      (l.map fun step => step.1.sign • step.2.vector).sum = 0 := fun l h =>
    List.sum_eq_zero fun v hv => by
      obtain ⟨step, hstep, rfl⟩ := List.mem_map.1 hv
      exact hzero step (h step hstep)
  rw [rearranged, List.map_append, List.map_append, List.sum_append, List.sum_append,
    hnone _ fun step hstep => scales_of_moves (List.mem_filter.1 hstep).2,
    hnone _ fun step hstep =>
      scales_of_moves (List.mem_filter.1 (List.mem_reverse.1 hstep)).2, zero_add, zero_add]
  exact sum_map_filter (fun step hstep => hzero step (by simpa using hstep)) _

/-! ## Equal units -/

section

variable {head : Operand} {tail : List (Join × Operand)}

/-- Multiplying by 1 does nothing. -/
theorem joined_of_not_moves {step : Join × Operand} (hscales : scales step = true)
    (hmoves : moves step = false) (u : Derived) : joined u step.1 step.2 = u := by
  obtain ⟨join, x⟩ := step
  cases join with
  | per => cases x <;> cases hscales
  | times =>
    cases x with
    | unit v => cases hscales
    | number x => exact if_pos (by simpa [moves] using hmoves)

variable (hmoves : ∀ step ∈ tail, moves step = false)
include hmoves

/-- Numbers equal to 1 change nothing where they multiply. -/
theorem foldl_filter (u : Derived) :
    (tail.filter fun step => !scales step).foldl (fun u step => joined u step.1 step.2) u =
      tail.foldl (fun u step => joined u step.1 step.2) u := by
  induction tail generalizing u with
  | nil => rfl
  | cons step tail ih =>
    have hrest := ih fun step hstep => hmoves step (List.mem_cons_of_mem _ hstep)
    cases hscales : scales step with
    | false =>
      rw [List.filter_cons_of_pos (by simp [hscales]), List.foldl_cons, hrest, List.foldl_cons]
    | true =>
      rw [List.filter_cons_of_neg (by simp [hscales]), hrest, List.foldl_cons,
        joined_of_not_moves hscales (hmoves _ List.mem_cons_self)]

/-- Where no number is written that stands behind the first operand, the order is that of the text
without the numbers equal to 1. -/
theorem rearranged_of_not_moves : rearranged head tail =
    [(Join.times, head)].filter moves ++
      ((.times, head) :: tail).filter fun step => !scales step := by
  have hnone : tail.filter moves = [] := by
    rw [List.filter_eq_nil_iff]
    exact fun step hstep => by rw [hmoves step hstep]; exact Bool.false_ne_true
  rw [rearranged, hnone, List.reverse_nil, List.append_nil]

/-- A number in front of what was rearranged multiplies it, also where it is 1 and left out. -/
theorem assembled_number {k : Float} {rest : List (Join × Operand)}
    (h : tail.filter (fun step => !scales step) = rest) :
    (rest = [] → assembled (rearranged (.number k) tail) = (Derived.known .one).times k) ∧
    ∀ u after, rest = (.times, .unit u) :: after →
      assembled (rearranged (.number k) tail) =
        (after.foldl (fun u step => joined u step.1 step.2) u).times k := by
  have hk : [(Join.times, number k)].filter moves =
      if k == 1.0 then [] else [(Join.times, number k)] := by
    rw [List.filter_singleton, moves]
    cases k == 1.0 <;> rfl
  have hothers : ((Join.times, number k) :: tail).filter (fun step => !scales step) = rest := by
    rw [List.filter_cons_of_neg (by simp), h]
  rw [rearranged_of_not_moves hmoves, hothers, hk]
  by_cases hone : (k == 1.0) = true
  -- a leading 1 is not listed, and multiplying by it is left out
  · have htimes : ∀ u : Derived, u.times k = u := fun u => if_pos hone
    rw [if_pos hone]
    refine ⟨?_, ?_⟩
    · rintro rfl
      exact (htimes _).symm
    · rintro u after rfl
      rw [htimes, ← evaluate_unit]
      rfl
  · rw [if_neg hone]
    refine ⟨?_, ?_⟩
    · rintro rfl
      rfl
    · rintro u after rfl
      rw [← evaluate_unit, ← evaluate_number_unit]
      rfl

/-- Where no number other than 1 is multiplied behind the first operand, and at most one number
stands in front, the operands make the same unit rearranged. -/
theorem assembled_rearranged (h : Recovers ((.times, head) :: tail))
    (hshort : (((.times, head) :: tail).takeWhile scales).length ≤ 1) :
    assembled (rearranged head tail) = evaluate head tail := by
  cases head with
  | unit u =>
    rw [rearranged_of_not_moves hmoves, evaluate_unit, ← foldl_filter hmoves, ← evaluate_unit]
    rfl
  | number k =>
    have hnumber : ∀ step ∈ [(Join.times, Operand.number k)], scales step = true := by simp
    match tail with
    | [] => exact (assembled_number hmoves rfl).1 rfl
    -- two numbers in front are not short, and a division behind one leaves a gap
    | (.times, .number x) :: rest => simp [List.takeWhile_cons] at hshort
    | (.times, .unit u) :: rest =>
      have hrest : ∀ step ∈ rest, moves step = false := fun step hstep =>
        hmoves step (List.mem_cons_of_mem _ hstep)
      rw [(assembled_number hmoves (List.filter_cons_of_pos rfl)).2 u _ rfl, foldl_filter hrest,
        evaluate_number_unit, evaluate_unit]
    | (.per, x) :: rest => exact absurd h (not_recovers_per hnumber x)

/-- Where no number other than 1 is multiplied behind the first operand, the operands make a unit
with the same factor rearranged. -/
theorem factor_assembled_rearranged (h : Recovers ((.times, head) :: tail)) :
    (assembled (rearranged head tail)).denomination.factor =
      (evaluate head tail).denomination.factor := by
  by_cases hshort : (((.times, head) :: tail).takeWhile scales).length ≤ 1
  · rw [assembled_rearranged hmoves h hshort]
  · -- several numbers stand in front of the unit of pure numbers, all but the first of them 1
    obtain ⟨k, rfl⟩ : ∃ k, head = .number k := by
      cases head with
      | number k => exact ⟨k, rfl⟩
      | unit u => simp at hshort
    have hopen : ∀ u rest, tail ≠ (.times, .unit u) :: rest := by
      rintro u rest rfl
      simp [List.takeWhile_cons] at hshort
    have hothers : ∀ step ∈ tail.filter fun step => !scales step, scales step = false :=
      fun step hstep => by simpa using (List.mem_filter.1 hstep).2
    have hfirst : (tail.filter fun step => !scales step).head? =
        (((Join.times, number k) :: tail).dropWhile scales).head? := by
      rw [List.head?_filter, List.find?_eq_head?_dropWhile_not,
        List.dropWhile_cons_of_pos (scales_number k)]
      simp only [Bool.not_not]
    rw [evaluate_number k hopen, ← foldl_filter hmoves]
    obtain ⟨hnone, hunit⟩ := assembled_number (k := k) hmoves rfl
    generalize tail.filter (fun step => !scales step) = rest at hothers hfirst hnone hunit
    match rest with
    | [] => rw [hnone rfl, List.foldl_nil]
    | (.times, .number x) :: after => cases hothers _ List.mem_cons_self
    | (.times, .unit u) :: after =>
      rw [hunit u after rfl, factor_times, factor_times, factor_foldl, List.foldl_cons,
        factor_foldl, factor_joined]
      show _ = rescaled k (after.foldl advance (1.0 * u.denomination.factor))
      rw [one_mul_eq]
    | (.per, x) :: after =>
      rw [Recovers] at h
      obtain ⟨rest, hrest⟩ := List.head?_eq_some_iff.1 hfirst.symm
      rw [hrest] at h
      exact h.elim

end

end Operand

end Metrology
