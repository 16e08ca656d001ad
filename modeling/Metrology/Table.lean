/-!
# Tables in order of arrival

A table remembers the order in which its keys first arrived. Writing to a key that is present
replaces the value in its place; a key that was absent goes to the end. `get?_put_self`,
`get?_put_of_ne` and `keys_put` say what one writing does to each reading.
-/

namespace Metrology

/-- A finite table whose entries are listed in the order in which their keys first arrived. -/
structure Table (κ α : Type) where
  entries : List (κ × α)

namespace Table

variable {κ α : Type} [DecidableEq κ]

/-- The table without entries. -/
def empty : Table κ α := ⟨[]⟩

instance : EmptyCollection (Table κ α) := ⟨empty⟩
instance : Inhabited (Table κ α) := ⟨empty⟩

/-- The keys in order of arrival. -/
def keys (t : Table κ α) : List κ := t.entries.map (·.1)

/-- The values in the order of their keys. -/
def values (t : Table κ α) : List α := t.entries.map (·.2)

/-- How many keys the table has. -/
def size (t : Table κ α) : Nat := t.entries.length

/-- The value of the first entry with the key. -/
def lookup (k : κ) : List (κ × α) → Option α
  | [] => none
  | (j, a) :: rest => if j = k then some a else lookup k rest

/-- The entries after writing a value to a key. -/
def write (k : κ) (a : α) : List (κ × α) → List (κ × α)
  | [] => [(k, a)]
  | (j, b) :: rest => if j = k then (j, a) :: rest else (j, b) :: write k a rest

/-- The value of a key. -/
def get? (t : Table κ α) (k : κ) : Option α := lookup k t.entries

/-- Whether a key is present. -/
def contains (t : Table κ α) (k : κ) : Bool := (t.get? k).isSome

/-- Write a value to a key. -/
def put (t : Table κ α) (k : κ) (a : α) : Table κ α := ⟨write k a t.entries⟩

/-- Write to a key what a function makes of its present value, or of `initial`. -/
def update (t : Table κ α) (k : κ) (initial : α) (f : α → α) : Table κ α :=
  t.put k (f ((t.get? k).getD initial))

/-- The table of a list of entries, later ones overwriting earlier ones. -/
def ofList (entries : List (κ × α)) : Table κ α :=
  entries.foldl (fun t e => t.put e.1 e.2) empty

theorem lookup_write_self (k : κ) (a : α) (es : List (κ × α)) :
    lookup k (write k a es) = some a := by
  induction es with
  | nil => simp [write, lookup]
  | cons e rest ih => by_cases h : e.1 = k <;> simp [write, lookup, h, ih]

theorem lookup_write_of_ne {j k : κ} (h : j ≠ k) (a : α) (es : List (κ × α)) :
    lookup j (write k a es) = lookup j es := by
  induction es with
  | nil => simp [write, lookup, Ne.symm h]
  | cons e rest ih =>
    by_cases hk : e.1 = k
    · simp [write, lookup, hk, Ne.symm h]
    · by_cases hj : e.1 = j <;> simp [write, lookup, hk, hj, ih, h]

/-- A key reads as what was written to it last. -/
@[simp] theorem get?_put_self (t : Table κ α) (k : κ) (a : α) : (t.put k a).get? k = some a :=
  lookup_write_self k a t.entries

/-- Writing to one key leaves the others. -/
theorem get?_put_of_ne (t : Table κ α) {j k : κ} (h : j ≠ k) (a : α) :
    (t.put k a).get? j = t.get? j :=
  lookup_write_of_ne h a t.entries

/-- Writing moves no key: a present key keeps its place, an absent one goes to the end. -/
theorem keys_put (t : Table κ α) (k : κ) (a : α) :
    (t.put k a).keys = if k ∈ t.keys then t.keys else t.keys ++ [k] := by
  obtain ⟨es⟩ := t
  simp only [put, keys]
  induction es with
  | nil => simp [write]
  | cons e rest ih =>
    by_cases h : e.1 = k
    · simp [write, h]
    · have hk : k ≠ e.1 := Ne.symm h
      by_cases hm : k ∈ rest.map (·.1) <;>
        simp only [write, h, hm, hk, ih, if_false, if_true, List.map_cons, List.mem_cons, false_or,
          List.cons_append]

end Table

end Metrology
