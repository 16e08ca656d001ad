import Mathlib.Algebra.Group.Nat.Defs
import Metrology.Text.Whole

/-!
# Whole numbers read back

A whole number that is written as a numeral reads back as itself (`whole?_toString`), as long as the
numeral is not too long, and no numeral that is read is (`isWritable_of_whole?`).
-/

namespace Metrology.Text

/-! ## Digits -/

theorem digit?_of_isDigit {c : Char} (h : c.isDigit = true) : digit? c = some (c.toNat - 48) := by
  have hc : 48 ≤ c.toNat ∧ c.toNat ≤ 57 := Char.isDigit_iff_toNat.1 h
  have hfound : zeroDigits.find? (fun z => z ≤ c.toNat && c.toNat < z + 10) = some 48 := by
    refine List.find?_cons_of_pos ?_
    simp only [Bool.and_eq_true, decide_eq_true_eq]
    omega
  unfold digit?
  dsimp only
  rw [hfound]
  rfl

theorem isDigit_of_isDigit {c : Char} (h : c.isDigit = true) : isDigit c = true := by
  rw [isDigit, digit?_of_isDigit h]
  rfl

/-- The value of a digit of any script is below ten. -/
theorem lt_ten_of_digit? {c : Char} {d : Nat} (h : digit? c = some d) : d < 10 := by
  obtain ⟨z, hz, rfl⟩ := Option.map_eq_some_iff.1 h
  have hrange := List.find?_some hz
  simp only [Bool.and_eq_true, decide_eq_true_eq] at hrange
  omega

/-- Digits are no blanks: their ranges are apart. -/
theorem isSpace_of_isDigit {c : Char} (h : isDigit c = true) : isSpace c = false := by
  have hall : ∀ z ∈ zeroDigits, ∀ k < 10,
      (inRanges blankRanges (z + k) || inRanges [(0x1C, 0x1F)] (z + k)) = false := by decide
  obtain ⟨d, hd⟩ := Option.isSome_iff_exists.1 h
  obtain ⟨z, hz, -⟩ := Option.map_eq_some_iff.1 hd
  have hrange := List.find?_some hz
  simp only [Bool.and_eq_true, decide_eq_true_eq] at hrange
  have hk := hall z (List.mem_of_find?_eq_some hz) (c.toNat - z) (by omega)
  rwa [show z + (c.toNat - z) = c.toNat by omega] at hk

/-- ASCII digits are read as what they count. -/
theorem digitRun?_of_isDigit {s : List Char} (hne : s ≠ []) (h : ∀ c ∈ s, c.isDigit = true) :
    digitRun? s = some (s.map fun c => c.toNat - 48) := by
  fun_induction digitRun? s with
  | case1 => exact absurd rfl hne
  | case2 c => simp [digit?_of_isDigit (h c (by simp))]
  | case3 c s ih => exact absurd (h '_' (by simp)) (by decide)
  | case4 c s hs hgap ih =>
    have hrest := ih (by simpa using hs) fun d hd => h d (List.mem_cons_of_mem c hd)
    rw [digit?_of_isDigit (h c (by simp)), hrest]
    rfl

/-- The value of a run of digits is bounded by their number. -/
theorem digitsValue_lt {ds : List Nat} (h : ∀ d ∈ ds, d < 10) :
    digitsValue ds < 10 ^ ds.length := by
  have hfrom : ∀ n, ds.foldl (fun n d => 10 * n + d) n < 10 ^ ds.length * (n + 1) := by
    induction ds with
    | nil => simp
    | cons d ds ih =>
      intro n
      have hd := h d (by simp)
      have hrest := ih (fun e he => h e (List.mem_cons_of_mem d he)) (10 * n + d)
      have hgrow : 10 ^ ds.length * (10 * n + d + 1) ≤ 10 ^ ds.length * (10 * (n + 1)) :=
        Nat.mul_le_mul_left _ (by omega)
      rw [List.foldl_cons, List.length_cons, Nat.pow_succ, Nat.mul_assoc]
      omega
  simpa [digitsValue] using hfrom 0

/-- What is read of a digit is less than ten. -/
theorem lt_ten_of_digitRun? {s : List Char} {ds : List Nat} (h : digitRun? s = some ds) :
    ∀ d ∈ ds, d < 10 := by
  fun_induction digitRun? s generalizing ds with
  | case1 => cases h
  | case2 c =>
    obtain ⟨d, hd, rfl⟩ := Option.map_eq_some_iff.1 h
    simpa using lt_ten_of_digit? hd
  | case3 c s ih =>
    obtain ⟨d, hd, rest, hrest, rfl⟩ : ∃ d, digit? c = some d ∧
        ∃ rest, digitRun? s = some rest ∧ d :: rest = ds := by
          simpa [Option.bind_eq_some_iff] using h
    simpa using ⟨lt_ten_of_digit? hd, ih hrest⟩
  | case4 c s hs hgap ih =>
    obtain ⟨d, hd, rest, hrest, rfl⟩ : ∃ d, digit? c = some d ∧
        ∃ rest, digitRun? s = some rest ∧ d :: rest = ds := by
          simpa [Option.bind_eq_some_iff] using h
    simpa using ⟨lt_ten_of_digit? hd, ih hrest⟩

/-! ## Numerals -/

/-- A whole number can be written out where it has few enough digits. -/
theorem isWritable_iff {n : Int} : isWritable n = true ↔ n.natAbs < 10 ^ longestNumeral := by
  rw [isWritable, decide_eq_true_iff, Nat.pow_eq]

/-- A numeral is an optional minus sign and the digits of the magnitude. -/
theorem toList_toString (n : Int) :
    (toString n).toList = (if n < 0 then ['-'] else []) ++ Nat.toDigits 10 n.natAbs := by
  rw [Int.toString_eq_repr, Int.repr_eq_if]
  by_cases h : 0 ≤ n
  · rw [if_pos h, if_neg (by omega), Nat.toList_repr, show n.toNat = n.natAbs by omega]
    rfl
  · rw [if_neg h, if_pos (by omega), String.toList_append, Nat.toList_repr,
      show (-n).toNat = n.natAbs by omega]
    rfl

/-- The characters of a numeral are digits and the minus sign. -/
theorem mem_toString {n : Int} {c : Char} (h : c ∈ (toString n).toList) :
    c = '-' ∨ c.isDigit = true := by
  rw [toList_toString, List.mem_append] at h
  rcases h with h | h
  · split at h
    · exact .inl (List.mem_singleton.1 h)
    · cases h
  · exact .inr (Nat.isDigit_of_mem_toDigits (by decide) (by decide) h)

/-- Trimming changes no text whose characters are outside the class. -/
theorem trim_of_forall {p : Char → Bool} {s : List Char} (h : ∀ c ∈ s, p c = false) :
    trim p s = s := by
  have hdrop : ∀ t : List Char, (∀ c ∈ t, p c = false) → t.dropWhile p = t := by
    intro t ht
    cases t with
    | nil => rfl
    | cons c t => simp [ht c (by simp)]
  rw [trim, hdrop s h, hdrop s.reverse (by simpa using h), List.reverse_reverse]

theorem isBlank_of_mem_toString {n : Int} {c : Char} (h : c ∈ (toString n).toList) :
    isBlank c = false := by
  rcases mem_toString h with rfl | hc
  · decide
  · have hspace := isSpace_of_isDigit (isDigit_of_isDigit hc)
    rw [isSpace, Bool.or_eq_false_iff] at hspace
    exact hspace.1

/-- A numeral that is not too long reads back. -/
theorem whole?_toString {n : Int} (h : isWritable n = true) :
    whole? (toString n).toList = some n := by
  have hlength : (Nat.toDigits 10 n.natAbs).length ≤ longestNumeral :=
    (Nat.length_toDigits_le_iff (by decide) (by decide)).2 (isWritable_iff.1 h)
  have hdigits : ∀ c ∈ Nat.toDigits 10 n.natAbs, c.isDigit = true := fun c hc =>
    Nat.isDigit_of_mem_toDigits (by decide) (by decide) hc
  have hrun := digitRun?_of_isDigit Nat.toDigits_ne_nil hdigits
  have hvalue : digitsValue ((Nat.toDigits 10 n.natAbs).map fun c => c.toNat - 48) = n.natAbs := by
    rw [digitsValue, List.foldl_map]
    exact Nat.ofDigitChars_ten_toDigits
  have hsign : splitSign (toString n).toList = (decide (n < 0), Nat.toDigits 10 n.natAbs) := by
    rw [toList_toString]
    by_cases hn : n < 0
    · simp [hn, splitSign]
    · rw [if_neg hn, List.nil_append, decide_eq_false hn]
      -- no digit is a sign
      unfold splitSign
      split
      · rename_i s hs
        exact absurd (hdigits '-' (by simp [hs])) (by decide)
      · rename_i s hs
        exact absurd (hdigits '+' (by simp [hs])) (by decide)
      · rfl
  unfold whole?
  rw [trim_of_forall fun c hc => isBlank_of_mem_toString hc, hsign]
  dsimp only
  rw [hrun]
  dsimp only
  rw [List.length_map, if_pos hlength, hvalue]
  by_cases hn : n < 0
  · simp only [hn, decide_true, if_true, Option.some.injEq]
    omega
  · simp only [hn, decide_false, Bool.false_eq_true, if_false, Option.some.injEq]
    omega

/-- What is read as a whole number can be written. -/
theorem isWritable_of_whole? {s : List Char} {n : Int} (h : whole? s = some n) :
    isWritable n = true := by
  unfold whole? at h
  dsimp only at h
  split at h
  · cases h
  · rename_i ds hrun
    split at h
    · rename_i hlength
      -- the number has no more digits than were read
      have hvalue := digitsValue_lt (lt_ten_of_digitRun? hrun)
      have hbound := Nat.lt_of_lt_of_le hvalue (Nat.pow_le_pow_right (by decide) hlength)
      have hn : n.natAbs = digitsValue ds := by
        rw [Option.some.injEq] at h
        split at h <;> omega
      rw [isWritable_iff, hn]
      exact hbound
    · cases h

end Metrology.Text
