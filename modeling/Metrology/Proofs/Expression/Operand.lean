import Mathlib.Algebra.BigOperators.Group.List.Basic
import Metrology.Expression.Basic
import Metrology.Proofs.Dimension.Vector

/-!
# What operands make

The unit that operands make has a dimension and a factor that can be told from theirs. The vector of
its dimension is the sum of the vectors of the units, those behind a division with the opposite
sign; numbers have none. Its factor is computed from left to right, in the order of the operands,
with the number in front, if there is one, last: doubles do not associate, so the order matters.
-/

namespace Metrology

open Numeral

/-- The sign with which the exponents of an operand count. -/
def Join.sign : Join → ℤ
  | .times => 1
  | .per => -1

namespace Operand

/-- The exponents of an operand; a number has none. -/
def vector : Operand → ℕ →₀ ℤ
  | .number _ => 0
  | .unit u => u.denomination.dimension.vector

/-- What an operand is worth. -/
def factor : Operand → Float
  | .number x => x
  | .unit u => u.denomination.factor

/-- A factor multiplied by a number; multiplying by 1 is left out. -/
def rescaled (x f : Float) : Float :=
  if x == 1.0 then f else x * f

/-- A factor joined with that of the next operand. -/
def advance (f : Float) : Join × Operand → Float
  | (.times, .number x) => rescaled x f
  | (.times, .unit u) => f * u.denomination.factor
  | (.per, x) => quotient f x.factor

/-- The factor that operands make, from left to right. A number in front is held back and multiplies
the result; where it is multiplied with a unit, the result begins with this unit. -/
def worth : Operand → List (Join × Operand) → Float
  | .unit u, rest => rest.foldl advance u.denomination.factor
  | .number k, [] => rescaled k 1.0
  | .number k, (.times, .unit u) :: rest => rescaled k (rest.foldl advance u.denomination.factor)
  | .number k, first :: rest => rescaled k (rest.foldl advance (advance 1.0 first))

/-- Behind a unit in front, the operands are taken in one after another. -/
theorem evaluate_unit (u : Derived) (rest : List (Join × Operand)) :
    evaluate (.unit u) rest = rest.foldl (fun u step => joined u step.1 step.2) u := by
  cases rest <;> rfl

/-- A number in front of a unit multiplies what the others make. -/
theorem evaluate_number_unit (k : Float) (u : Derived) (rest : List (Join × Operand)) :
    evaluate (.number k) ((.times, .unit u) :: rest) = (evaluate (.unit u) rest).times k := by
  rw [evaluate_unit]
  rfl

/-- Multiplying by a number leaves the dimension. -/
theorem dimension_times (u : Derived) (x : Float) :
    (u.times x).denomination.dimension = u.denomination.dimension := by
  unfold Derived.times
  split <;> rfl

/-- Multiplying by a number multiplies the factor, except that multiplying by 1 is left out. -/
theorem factor_times (u : Derived) (x : Float) :
    (u.times x).denomination.factor = rescaled x u.denomination.factor := by
  unfold Derived.times rescaled
  split <;> rfl

/-- Joining an operand adds its vector, or subtracts it behind a division. -/
theorem vector_joined (u : Derived) (join : Join) (x : Operand) :
    (joined u join x).denomination.dimension.vector =
      u.denomination.dimension.vector + join.sign • x.vector := by
  cases join with
  | times =>
    cases x with
    | number x => simp [joined, vector, dimension_times]
    | unit v =>
      show (u.denomination.dimension * v.denomination.dimension).vector = _
      simp [Join.sign, vector]
  | per =>
    cases x with
    | number x =>
      show u.denomination.dimension.vector = _
      simp [vector]
    | unit v =>
      show (u.denomination.dimension / v.denomination.dimension).vector = _
      simp [Join.sign, vector, sub_eq_add_neg]

/-- Joining an operand goes on with its factor. -/
theorem factor_joined (u : Derived) (join : Join) (x : Operand) :
    (joined u join x).denomination.factor = advance u.denomination.factor (join, x) := by
  cases join with
  | times =>
    cases x with
    | number x => exact factor_times u x
    | unit v => rfl
  | per => cases x <;> rfl

/-- Joining operands one after another adds up their signed vectors. -/
theorem vector_foldl (u : Derived) (rest : List (Join × Operand)) :
    (rest.foldl (fun u step => joined u step.1 step.2) u).denomination.dimension.vector =
      u.denomination.dimension.vector + (rest.map fun step => step.1.sign • step.2.vector).sum := by
  induction rest generalizing u with
  | nil => simp
  | cons step rest ih =>
    rw [List.foldl_cons, ih, vector_joined, List.map_cons, List.sum_cons, add_assoc]

/-- Joining operands one after another works their factors off from left to right. -/
theorem factor_foldl (u : Derived) (rest : List (Join × Operand)) :
    (rest.foldl (fun u step => joined u step.1 step.2) u).denomination.factor =
      rest.foldl advance u.denomination.factor := by
  induction rest generalizing u with
  | nil => rfl
  | cons step rest ih => rw [List.foldl_cons, ih, factor_joined, List.foldl_cons]

theorem vector_toUnit (x : Operand) : x.toUnit.denomination.dimension.vector = x.vector := by
  cases x with
  | number x =>
    rw [toUnit, dimension_times]
    exact Dimension.vector_one
  | unit u => rfl

theorem vector_opened (join : Join) (x : Operand) :
    (opened join x).denomination.dimension.vector = join.sign • x.vector := by
  cases join with
  | times =>
    show x.toUnit.denomination.dimension.vector = _
    rw [vector_toUnit, Join.sign, one_smul]
  | per =>
    show (joined (.known .one) .per x).denomination.dimension.vector = _
    rw [vector_joined, show (Derived.known .one).denomination.dimension = 1 from rfl]
    simp

/-- The dimension that operands make: numbers contribute nothing, and units behind a division count
with the opposite sign. -/
theorem vector_evaluate (head : Operand) (tail : List (Join × Operand)) :
    (evaluate head tail).denomination.dimension.vector =
      head.vector + (tail.map fun step => step.1.sign • step.2.vector).sum := by
  cases head with
  | unit u =>
    cases tail with
    | nil => simp [evaluate, toUnit, vector]
    | cons step rest => exact vector_foldl u _
  | number k =>
    cases tail with
    | nil => simp [evaluate, vector_toUnit]
    | cons step rest =>
      obtain ⟨join, x⟩ := step
      rw [evaluate, dimension_times, vector_foldl, vector_opened]
      simp [vector]

/-- The factor that operands make. -/
theorem factor_evaluate (head : Operand) (tail : List (Join × Operand)) :
    (evaluate head tail).denomination.factor = worth head tail := by
  cases head with
  | unit u =>
    cases tail with
    | nil => rfl
    | cons step rest => exact factor_foldl u _
  | number k =>
    cases tail with
    | nil => exact factor_times _ k
    | cons step rest =>
      obtain ⟨join, x⟩ := step
      rw [evaluate, factor_times, factor_foldl]
      -- only a unit behind a multiplication begins the result by itself
      cases join with
      | times =>
        cases x with
        | number x =>
          rw [opened, toUnit, factor_times]
          rfl
        | unit v => rfl
      | per =>
        rw [opened, factor_joined]
        rfl

end Operand

end Metrology
