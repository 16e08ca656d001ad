/-!
# Dimensions

A dimension, also called a unit type, is a vector of whole exponents over numbered base dimensions:
velocity has exponent 1 at length and -1 at time. The exponents are stored without zeros at the end,
so two dimensions are equal exactly when they have the same exponent at every number
(`Dimension.ext_exponent`).
-/

namespace Metrology

/-- A list of exponents without the zeros at its end. -/
def trimZeros : List Int → List Int
  | [] => []
  | e :: es =>
    match trimZeros es with
    | [] => if e = 0 then [] else [e]
    | f :: fs => e :: f :: fs

theorem getLast?_trimZeros (es : List Int) : (trimZeros es).getLast? ≠ some 0 := by
  induction es with
  | nil => simp [trimZeros]
  | cons e es ih =>
    unfold trimZeros
    split
    · split <;> simp_all
    · rename_i f fs h
      rw [h] at ih
      simpa using ih

/-- Trimming changes no exponent. -/
theorem getD_trimZeros (es : List Int) (i : Nat) : (trimZeros es).getD i 0 = es.getD i 0 := by
  induction es generalizing i with
  | nil => simp [trimZeros]
  | cons e es ih =>
    unfold trimZeros
    split
    · rename_i h
      have hz : ∀ j, es.getD j 0 = 0 := fun j => by rw [← ih j, h]; simp
      cases i with
      | zero => split <;> simp_all
      | succ i => split <;> simp_all
    · rename_i f fs h
      cases i with
      | zero => simp
      | succ i => simpa [h] using ih i

/-- A vector of exponents over the base dimensions. -/
structure Dimension where
  exponents : List Int
  trimmed : exponents.getLast? ≠ some 0
deriving DecidableEq

namespace Dimension

/-- The dimension with the given exponents. -/
def ofList (es : List Int) : Dimension := ⟨trimZeros es, getLast?_trimZeros es⟩

/-- The dimension of pure numbers: every exponent is zero. -/
def one : Dimension := ⟨[], by simp⟩

instance : One Dimension := ⟨one⟩
instance : Inhabited Dimension := ⟨one⟩

/-- The exponent at a base dimension. -/
def exponent (d : Dimension) (i : Nat) : Int := d.exponents.getD i 0

/-- The base dimension with a number. -/
def base (i : Nat) : Dimension := ofList (List.replicate i 0 ++ [1])

/-- Exponent by exponent, the first plus `sign` times the second. -/
def combine (sign : Int) : List Int → List Int → List Int
  | es, [] => es
  | [], f :: fs => sign * f :: combine sign [] fs
  | e :: es, f :: fs => (e + sign * f) :: combine sign es fs

/-- The product: exponents add. -/
def mul (a b : Dimension) : Dimension := ofList (combine 1 a.exponents b.exponents)

/-- The quotient: exponents subtract. -/
def div (a b : Dimension) : Dimension := ofList (combine (-1) a.exponents b.exponents)

/-- A whole power: every exponent is multiplied. -/
def pow (d : Dimension) (n : Int) : Dimension := ofList (d.exponents.map (· * n))

instance : Mul Dimension := ⟨mul⟩
instance : Div Dimension := ⟨div⟩
instance : HPow Dimension Int Dimension := ⟨pow⟩

/-- Whether every exponent is zero. -/
def isOne (d : Dimension) : Bool := d.exponents.isEmpty

@[simp] theorem exponent_ofList (es : List Int) (i : Nat) : (ofList es).exponent i = es.getD i 0 :=
  getD_trimZeros es i

theorem getD_combine (sign : Int) (es fs : List Int) (i : Nat) :
    (combine sign es fs).getD i 0 = es.getD i 0 + sign * fs.getD i 0 := by
  fun_induction combine sign es fs generalizing i with
  | case1 => simp
  | case2 f fs ih => cases i with
    | zero => simp
    | succ i => simpa using ih i
  | case3 e es f fs ih => cases i with
    | zero => simp
    | succ i => simpa using ih i

theorem exponent_one (i : Nat) : (1 : Dimension).exponent i = 0 := by
  show one.exponent i = 0
  simp [one, exponent]

@[simp] theorem exponent_mul (a b : Dimension) (i : Nat) :
    (a * b).exponent i = a.exponent i + b.exponent i := by
  show (ofList _).exponent i = _
  rw [exponent_ofList, getD_combine, Int.one_mul]
  rfl

@[simp] theorem exponent_div (a b : Dimension) (i : Nat) :
    (a / b).exponent i = a.exponent i - b.exponent i := by
  show (ofList _).exponent i = _
  rw [exponent_ofList, getD_combine]
  simp only [exponent]
  omega

theorem getD_map_mul (es : List Int) (n : Int) (i : Nat) :
    (es.map (· * n)).getD i 0 = es.getD i 0 * n := by
  induction es generalizing i with
  | nil => simp
  | cons e es ih => cases i with
    | zero => simp
    | succ i => simpa using ih i

@[simp] theorem exponent_pow (d : Dimension) (n : Int) (i : Nat) :
    (d ^ n).exponent i = d.exponent i * n := by
  show (ofList _).exponent i = _
  rw [exponent_ofList, getD_map_mul]
  rfl

/-- Two lists of exponents without zeros at their ends that agree at every place are equal. -/
theorem eq_of_getD_eq {es fs : List Int} (he : es.getLast? ≠ some 0) (hf : fs.getLast? ≠ some 0)
    (h : ∀ i, es.getD i 0 = fs.getD i 0) : es = fs := by
  induction es generalizing fs with
  | nil =>
    cases hl : fs.getLast? with
    | none => exact (List.getLast?_eq_none_iff.1 hl).symm
    | some f =>
      -- the last exponent of the longer list would be 0
      have hlast := h (fs.length - 1)
      rw [List.getLast?_eq_getElem?] at hl
      simp [List.getD_eq_getElem?_getD, hl] at hlast
      subst hlast
      exact absurd (by rw [List.getLast?_eq_getElem?, hl]) hf
  | cons e es ih =>
    cases fs with
    | nil =>
      cases hl : (e :: es).getLast? with
      | none => simp at hl
      | some f =>
        have hlast := h ((e :: es).length - 1)
        rw [List.getLast?_eq_getElem?] at hl
        simp only [List.getD_eq_getElem?_getD, hl] at hlast
        simp at hlast
        subst hlast
        exact absurd (by rw [List.getLast?_eq_getElem?, hl]) he
    | cons f fs =>
      have h0 : e = f := by simpa using h 0
      -- neither tail ends in a zero
      have htail : es = fs := by
        refine ih ?_ ?_ fun i => by simpa using h (i + 1)
        · intro hz
          cases es with
          | nil => simp at hz
          | cons x xs => exact he (by simpa using hz)
        · intro hz
          cases fs with
          | nil => simp at hz
          | cons x xs => exact hf (by simpa using hz)
      rw [h0, htail]

/-- Dimensions with the same exponent at every base dimension are equal. -/
theorem ext_exponent {a b : Dimension} (h : ∀ i, a.exponent i = b.exponent i) : a = b := by
  obtain ⟨es, he⟩ := a
  obtain ⟨fs, hf⟩ := b
  congr
  exact eq_of_getD_eq he hf h

end Dimension

end Metrology
