import Metrology.Dimension.Basic
import Metrology.Table

/-!
# The base dimensions

Base dimensions are known by name and numbered in the order in which their names were first used. A
name keeps its number for ever, and no name contains the pipe character. The numbers are kept in a
table beside the names, which agrees with them (`Basis.numbered`).
-/

namespace Metrology

/-- The names of the base dimensions, by number. -/
structure Basis where
  names : List String
  /-- The number of each name. -/
  numbers : Table String Nat
  numbered : ∀ name, numbers.get? name = names.idxOf? name

namespace Basis

/-- No base dimensions. -/
def empty : Basis := ⟨[], ∅, fun _ => rfl⟩

/-- Whether a name can be that of a base dimension. -/
def admits (name : String) : Bool := !name.toList.contains '|'

/-- The number of a name, if it has one. -/
def number? (b : Basis) (name : String) : Option Nat := b.numbers.get? name

/-- The name with a number, if there is one. -/
def name? (b : Basis) (i : Nat) : Option String := b.names[i]?

/-- The name at a position counted from the front, or, with a negative one, from the back. -/
def nameAt? (b : Basis) (i : Int) : Option String :=
  if 0 ≤ i then b.name? i.toNat
  else if -i ≤ b.names.length then b.name? (b.names.length + i).toNat
  else none

/-- How many base dimensions there are. -/
def size (b : Basis) : Nat := b.names.length

/-- The basis with a name that is new. -/
def add (b : Basis) (name : String) (h : b.number? name = none) : Basis where
  names := b.names ++ [name]
  numbers := b.numbers.put name b.size
  numbered other := by
    have hlast : (b.names ++ [name]).idxOf? other =
        (b.names.idxOf? other).or (([name].idxOf? other).map (· + b.names.length)) :=
      List.findIdx?_append
    rw [hlast, List.idxOf?_cons, ← b.numbered other]
    by_cases ho : other = name
    · have hnone : b.numbers.get? other = none := ho ▸ h
      rw [ho, Table.get?_put_self, ← ho, hnone]
      simp [size]
    · simp [Table.get?_put_of_ne _ ho, Ne.symm ho]

/-- The basis in which a name has a number: the next one, if it is new. -/
def insert (b : Basis) (name : String) : Basis :=
  match h : b.number? name with
  | some _ => b
  | none => b.add name h

theorem number?_eq_idxOf? (b : Basis) (name : String) : b.number? name = b.names.idxOf? name :=
  b.numbered name

theorem names_insert {b : Basis} {name : String} (h : b.number? name = none) :
    (b.insert name).names = b.names ++ [name] := by
  unfold insert
  split
  · simp_all
  · rfl

/-- The basis of some names, numbered in the order in which they first stand. -/
def ofNames (names : List String) : Basis :=
  names.foldl insert empty

/-- The nonzero exponents of a dimension with their names, in the order of the numbers. -/
def factors (b : Basis) (d : Dimension) : List (String × Int) :=
  (b.names.zip d.exponents).filter fun f => f.2 ≠ 0

/-- A dimension as text: the nonzero powers in the order of the numbers. -/
def describe (b : Basis) (d : Dimension) : String :=
  " * ".intercalate ((b.factors d).map fun f => f.1 ++ "^" ++ toString f.2)

end Basis

/-- The list with a value at a position, filled up with zeros where it is too short. -/
def setExponent : List Int → Nat → Int → List Int
  | [], 0, e => [e]
  | [], i + 1, e => 0 :: setExponent [] i e
  | _ :: es, 0, e => e :: es
  | f :: es, i + 1, e => f :: setExponent es i e

end Metrology
