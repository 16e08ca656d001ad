import Mathlib.Data.Finsupp.SMul
import Mathlib.Data.List.ToFinsupp
import Metrology.Dimension.Basic

/-!
# Dimensions as vectors

Dimensions are the finitely supported functions from the numbers of the base dimensions to the whole
numbers, which form the free abelian group over the base dimensions: the algebra of dimensions,
which multiplies, divides and raises, is its algebra, which adds, subtracts and scales.
-/

namespace Metrology.Dimension

/-- The exponents of a dimension as an element of the free abelian group over the base dimensions.
-/
def vector (d : Dimension) : ℕ →₀ ℤ :=
  d.exponents.toFinsupp

@[simp] theorem vector_apply (d : Dimension) (i : ℕ) : d.vector i = d.exponent i := by
  simp [vector, exponent]

/-- Dimensions with the same vector are the same. -/
theorem vector_injective : Function.Injective vector := by
  intro a b h
  refine ext_exponent fun i => ?_
  rw [← vector_apply, h, vector_apply]

@[simp] theorem vector_inj {a b : Dimension} : a.vector = b.vector ↔ a = b :=
  vector_injective.eq_iff

/-- The dimension of pure numbers is the zero vector. -/
@[simp] theorem vector_one : (1 : Dimension).vector = 0 := by
  ext i
  simp [exponent_one]

/-- Multiplying dimensions adds their vectors. -/
@[simp] theorem vector_mul (a b : Dimension) : (a * b).vector = a.vector + b.vector := by
  ext i
  simp

/-- Dividing dimensions subtracts their vectors. -/
@[simp] theorem vector_div (a b : Dimension) : (a / b).vector = a.vector - b.vector := by
  ext i
  simp

/-- A power multiplies the vector. -/
@[simp] theorem vector_pow (d : Dimension) (n : ℤ) : (d ^ n).vector = n • d.vector := by
  ext i
  simp [Int.mul_comm]

end Metrology.Dimension
