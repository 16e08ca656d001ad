import Mathlib.Data.List.Basic
import Metrology.Numeral.Notation
import Metrology.Numeral.Reader
import Metrology.Proofs.Text.Search
import Metrology.Proofs.Text.Whole

/-!
# Doubles that are written are literals

A decimal literal consists of digits, signs, points and exponent marks (`isFigure_of_literal?`). The
shortest notation of a finite double is one, also without the empty fraction of a whole number:
every notation has one of the layouts that `Laid` lists with the decimals that they stand for, and
all of them are read as these decimals (`literal?_plainText`).
-/

namespace Metrology

namespace Numeral

open Text

/-! ## The characters of a literal -/

/-- Whether a character can stand in a literal. -/
def isFigure (c : Char) : Bool :=
  isDigit c || ['+', '-', '.', 'e', 'E'].contains c

theorem isFigure_of_isDigit {c : Char} (h : isDigit c = true) : isFigure c = true := by
  rw [isFigure, h, Bool.true_or]

/-- A text is an optional sign and what stands behind it. -/
theorem isFigure_of_splitSign {s : List Char}
    (h : ∀ c ∈ (splitSign s).2, isFigure c = true) : ∀ c ∈ s, isFigure c = true := by
  intro c hc
  unfold splitSign at h
  split at h
  · rcases List.mem_cons.1 hc with rfl | hc
    · decide
    · exact h c hc
  · rcases List.mem_cons.1 hc with rfl | hc
    · decide
    · exact h c hc
  · exact h c hc

/-- A text is a run of digits and what stands behind it. -/
theorem isFigure_of_spanDigits {s : List Char}
    (h : ∀ c ∈ (spanDigits s).2, isFigure c = true) : ∀ c ∈ s, isFigure c = true := by
  fun_induction spanDigits s with
  | case1 => simp
  | case2 c s hd => exact h
  | case3 c s d hd ds rest hspan ih =>
    rw [hspan] at ih
    intro e he
    rcases List.mem_cons.1 he with rfl | he
    · exact isFigure_of_isDigit (by rw [isDigit, hd]; rfl)
    · exact ih h e he

/-- An exponent is written with characters of a literal. -/
theorem isFigure_of_exponent? {s : List Char} {n : Int} (h : exponent? s = some n) :
    ∀ c ∈ s, isFigure c = true := by
  unfold exponent? at h
  split at h
  · simp
  · rename_i c s
    split at h
    · rename_i hmark
      -- behind the mark there is a sign at most, and digits to the end
      have htail : ∀ d ∈ s, isFigure d = true := by
        refine isFigure_of_splitSign (isFigure_of_spanDigits ?_)
        dsimp only at h
        split at h
        · rename_i hspan
          simp [hspan]
        · cases h
      intro d hd
      rcases List.mem_cons.1 hd with rfl | hd
      · rcases (by simpa using hmark : d = 'e' ∨ d = 'E') with rfl | rfl <;> decide
      · exact htail d hd
    · cases h

/-- The characters of a literal. -/
theorem isFigure_of_literal? {s : List Char} {l : Literal} (h : literal? s = some l) :
    ∀ c ∈ s, isFigure c = true := by
  refine isFigure_of_splitSign (isFigure_of_spanDigits ?_)
  unfold literal? at h
  dsimp only at h
  split at h
  · rename_i rest hrest
    split at h
    · cases h
    · obtain ⟨n, hn, -⟩ := Option.map_eq_some_iff.1 h
      rw [hrest]
      intro c hc
      rcases List.mem_cons.1 hc with rfl | hc
      · decide
      · exact isFigure_of_spanDigits (isFigure_of_exponent? hn) c hc
  · split at h
    · cases h
    · obtain ⟨n, hn, -⟩ := Option.map_eq_some_iff.1 h
      exact isFigure_of_exponent? hn

/-- A character that stands in no literal keeps a text from being one. -/
theorem literal?_eq_none {s : List Char} {c : Char} (hc : c ∈ s) (h : isFigure c = false) :
    literal? s = none := by
  cases hl : literal? s with
  | none => rfl
  | some l =>
    rw [isFigure_of_literal? hl c hc] at h
    cases h

/-! ## Layouts -/

/-- A run of ASCII digits that is not empty. -/
structure Run (s : List Char) : Prop where
  ne_nil : s ≠ []
  isDigit : ∀ c ∈ s, c.isDigit = true

/-- The number that a run of ASCII digits is. -/
def figures (s : List Char) : Nat :=
  Nat.ofDigitChars 10 s 0

/-- The exponent behind a notation, if there is one. -/
inductive Scale : List Char → Int → Prop
  | none : Scale [] 0
  | positive {s : List Char} (hs : Run s) : Scale ('e' :: '+' :: s) (figures s)
  | negative {s : List Char} (hs : Run s) : Scale ('e' :: '-' :: s) (-figures s)

/-- A notation without its sign, and the decimal that it stands for. -/
inductive Laid : List Char → Decimal → Prop
  | whole {w e : List Char} {n : Int} (hw : Run w) (he : Scale e n) : Laid (w ++ e) ⟨figures w, n⟩
  | pointed {w f e : List Char} {n : Int} (hw : Run w) (hf : Run f) (he : Scale e n) :
      Laid (w ++ '.' :: (f ++ e)) ⟨figures (w ++ f), n - f.length⟩

/-- Figures behind others shift those before them. -/
theorem figures_append (s t : List Char) :
    figures (s ++ t) = figures s * 10 ^ t.length + figures t := by
  rw [figures, Nat.ofDigitChars_append, Nat.ofDigitChars_eq_ofDigitChars_zero, Nat.mul_comm]
  rfl

theorem figures_replicate (n : Nat) : figures (List.replicate n '0') = 0 :=
  Nat.ofDigitChars_replicate_zero.trans (Nat.mul_zero _)

/-- The figures of a natural number are read as that number. -/
theorem figures_digitText (n : Nat) : figures (digitText n) = n :=
  Nat.ofDigitChars_ten_toDigits

/-- The reader adds up the same digits. -/
theorem digitsValue_map (s : List Char) :
    digitsValue (s.map fun c => c.toNat - 48) = figures s := by
  rw [digitsValue, List.foldl_map]
  rfl

theorem Run.not_mem {s : List Char} (h : Run s) {c : Char} (hc : c.isDigit = false) : c ∉ s := by
  intro hmem
  rw [h.isDigit c hmem] at hc
  cases hc

theorem Run.append {s t : List Char} (hs : Run s) (ht : ∀ c ∈ t, c.isDigit = true) :
    Run (s ++ t) := by
  refine ⟨by simp [hs.ne_nil], fun c hc => ?_⟩
  rcases List.mem_append.1 hc with hc | hc
  · exact hs.isDigit c hc
  · exact ht c hc

theorem isDigit_of_mem_replicate {n : Nat} {c : Char} (h : c ∈ List.replicate n '0') :
    c.isDigit = true := by
  rw [List.eq_of_mem_replicate h]
  rfl

/-- A natural number is written as a run of digits. -/
theorem run_digitText (n : Nat) : Run (digitText n) :=
  ⟨Nat.toDigits_ne_nil, fun _ hc => Nat.isDigit_of_mem_toDigits (by decide) (by decide) hc⟩

/-- An exponent does not begin with a digit, so it ends the run before it. -/
theorem Scale.head_not_digit {e : List Char} {n : Int} (h : Scale e n) :
    ∀ c ∈ e.head?, digit? c = Option.none := by
  have hmark : digit? 'e' = Option.none := by decide
  cases h with
  | none => simp
  | positive _ => simpa using hmark
  | negative _ => simpa using hmark

/-- Digits are read up to what is none. -/
theorem spanDigits_append {s e : List Char} (hs : ∀ c ∈ s, c.isDigit = true)
    (he : ∀ c ∈ e.head?, digit? c = none) :
    spanDigits (s ++ e) = (s.map fun c => c.toNat - 48, e) := by
  induction s with
  | nil =>
    cases e with
    | nil => rfl
    | cons c e => simp [spanDigits, he c (by simp)]
  | cons c s ih =>
    rw [List.cons_append, spanDigits, digit?_of_isDigit (hs c (by simp)),
      ih fun d hd => hs d (List.mem_cons_of_mem c hd)]
    rfl

/-- The reader takes a run of digits whole. -/
theorem spanDigits_run {s : List Char} (hs : Run s) :
    ∃ d ds, spanDigits s = (d :: ds, []) ∧ digitsValue (d :: ds) = figures s := by
  have hspan := spanDigits_append (e := []) hs.isDigit (by simp)
  rw [List.append_nil] at hspan
  rw [← digitsValue_map]
  obtain ⟨c, t, rfl⟩ := List.exists_cons_of_ne_nil hs.ne_nil
  exact ⟨_, _, hspan, rfl⟩

/-- What is laid out as an exponent is read as it. -/
theorem exponent?_of_scale {e : List Char} {n : Int} (h : Scale e n) : exponent? e = some n := by
  cases h with
  | none => rfl
  | positive hs =>
    obtain ⟨d, ds, hspan, hvalue⟩ := spanDigits_run hs
    simp [exponent?, splitSign, hspan, hvalue]
  | negative hs =>
    obtain ⟨d, ds, hspan, hvalue⟩ := spanDigits_run hs
    simp [exponent?, splitSign, hspan, hvalue]

/-- A notation begins with a digit, so what stands before it is its sign. -/
theorem Laid.splitSign {s : List Char} {d : Decimal} (h : Laid s d) (negative : Bool) :
    splitSign ((if negative then ['-'] else []) ++ s) = (negative, s) := by
  -- both layouts begin with a digit, which is no sign
  obtain ⟨c, t, rfl, hc⟩ : ∃ c t, s = c :: t ∧ c.isDigit = true := by
    cases h with
    | whole hw he =>
      obtain ⟨c, w, rfl⟩ := List.exists_cons_of_ne_nil hw.ne_nil
      exact ⟨c, _, rfl, hw.isDigit c (by simp)⟩
    | pointed hw hf he =>
      obtain ⟨c, w, rfl⟩ := List.exists_cons_of_ne_nil hw.ne_nil
      exact ⟨c, _, rfl, hw.isDigit c (by simp)⟩
  cases negative with
  | true => rfl
  | false =>
    unfold Text.splitSign
    split
    · rename_i heq
      obtain ⟨rfl, -⟩ : c = '-' ∧ t = _ := by simpa using heq
      exact absurd hc (by decide)
    · rename_i heq
      obtain ⟨rfl, -⟩ : c = '+' ∧ t = _ := by simpa using heq
      exact absurd hc (by decide)
    · rfl

/-- A notation with a sign is read as the decimal that it stands for. -/
theorem Laid.literal? {s : List Char} {d : Decimal} (h : Laid s d) (negative : Bool) :
    literal? ((if negative then ['-'] else []) ++ s) = some ⟨negative, d⟩ := by
  unfold Numeral.literal?
  rw [h.splitSign]
  dsimp only
  cases h with
  | whole hw he =>
    rename_i w e n
    rw [spanDigits_append hw.isDigit he.head_not_digit]
    -- behind whole digits no point is read
    have hpoint : ∀ r, e ≠ '.' :: r := by
      rintro r rfl
      cases he
    split
    · exact absurd ‹_› (hpoint _)
    · rw [if_neg (by simp [hw.ne_nil]), exponent?_of_scale he, Option.map_some, List.append_nil,
        digitsValue_map, List.length_nil, Int.natCast_zero, Int.sub_zero]
  | pointed hw hf he =>
    rename_i w f e n
    have hpoint : ∀ c ∈ ('.' :: (f ++ e)).head?, digit? c = none := by
      rintro c ⟨⟩
      decide
    simp only [spanDigits_append hw.isDigit hpoint, spanDigits_append hf.isDigit he.head_not_digit]
    rw [if_neg (by simp [hw.ne_nil]), exponent?_of_scale he, Option.map_some, ← List.map_append,
      digitsValue_map, List.length_map]

/-! ## Notations -/

/-- The same decimal with zeros behind its digits. -/
def Decimal.padded (d : Decimal) (k : Nat) : Decimal :=
  ⟨d.digits * 10 ^ k, d.exponent - k⟩

theorem Decimal.padded_zero (d : Decimal) : d.padded 0 = d :=
  congrArg₂ Decimal.mk (Nat.mul_one _) (Int.sub_zero _)

theorem Decimal.padded_padded (d : Decimal) (j k : Nat) :
    (d.padded j).padded k = d.padded (j + k) := by
  refine congrArg₂ Decimal.mk ?_ ?_
  · rw [Nat.pow_add, ← Nat.mul_assoc]
    rfl
  · dsimp only [padded]
    omega

section

variable {digits : List Char} (h : Run digits) {leading exponent : Int}
  (hplace : leading + 1 = exponent + digits.length)
include h hplace

/-- Digits behind the point stand for themselves. -/
theorem laid_behind_point (hleading : leading < 0) :
    Laid ('0' :: '.' :: (List.replicate (-leading - 1).toNat '0' ++ digits))
      ⟨figures digits, exponent⟩ := by
  have hfraction : Run (List.replicate (-leading - 1).toNat '0' ++ digits) := by
    refine ⟨by simp [h.ne_nil], fun c hc => ?_⟩
    rcases List.mem_append.1 hc with hc | hc
    · exact isDigit_of_mem_replicate hc
    · exact h.isDigit c hc
  have hlaid := Laid.pointed (w := ['0']) ⟨by simp, by simp⟩ hfraction .none
  have hdigits : figures (['0'] ++ (List.replicate (-leading - 1).toNat '0' ++ digits)) =
      figures digits := by
    rw [← List.append_assoc, show ['0'] = List.replicate 1 '0' from rfl,
      List.replicate_append_replicate, figures_append, figures_replicate]
    omega
  have hexponent :
      0 - ((List.replicate (-leading - 1).toNat '0' ++ digits).length : Int) = exponent := by
    rw [List.length_append, List.length_replicate]
    omega
  rwa [List.append_nil, hdigits, hexponent] at hlaid

/-- Digits in front of the point stand for themselves, with zeros up to the first decimal place. -/
theorem laid_before_point (hcount : (digits.length : Int) ≤ leading + 1) :
    Laid (digits ++ List.replicate (leading + 1 - digits.length).toNat '0' ++ ['.', '0'])
      (Decimal.padded ⟨figures digits, exponent⟩ (exponent.toNat + 1)) := by
  have hwhole := h.append fun c hc =>
    isDigit_of_mem_replicate (n := (leading + 1 - digits.length).toNat) hc
  have hlaid := Laid.pointed hwhole (f := ['0']) ⟨by simp, by simp⟩ .none
  have hdigits : figures (digits ++ List.replicate (leading + 1 - digits.length).toNat '0' ++
      ['0']) = figures digits * 10 ^ (exponent.toNat + 1) := by
    rw [List.append_assoc, ← List.replicate_succ', figures_append, figures_replicate,
      List.length_replicate, Nat.add_zero]
    congr 2
    omega
  have hexponent : 0 - ((['0'] : List Char).length : Int) =
      exponent - (exponent.toNat + 1 : Nat) := by
    rw [List.length_singleton]
    omega
  rwa [hdigits, hexponent] at hlaid

/-- Digits with the point among them stand for themselves. -/
theorem laid_around_point (hleading : 0 ≤ leading) (hcount : leading + 1 < digits.length) :
    Laid (digits.take (leading + 1).toNat ++ '.' :: digits.drop (leading + 1).toNat)
      ⟨figures digits, exponent⟩ := by
  have htake : Run (digits.take (leading + 1).toNat) := by
    refine ⟨fun hnil => ?_, fun c hc => h.isDigit c (List.mem_of_mem_take hc)⟩
    have hlength := congrArg List.length hnil
    simp only [List.length_take, List.length_nil] at hlength
    omega
  have hdrop : Run (digits.drop (leading + 1).toNat) := by
    refine ⟨fun hnil => ?_, fun c hc => h.isDigit c (List.mem_of_mem_drop hc)⟩
    have hlength := congrArg List.length hnil
    simp only [List.length_drop, List.length_nil] at hlength
    omega
  have hlaid := Laid.pointed htake hdrop .none
  have hexponent : 0 - ((digits.drop (leading + 1).toNat).length : Int) = exponent := by
    rw [List.length_drop]
    omega
  rwa [List.append_nil, List.take_append_drop, hexponent] at hlaid

/-- Digits laid out stand for themselves, maybe with zeros up to the first decimal place. -/
theorem laid_positional :
    ∃ k : Nat, Laid (positional digits leading ['.', '0'])
        (Decimal.padded ⟨figures digits, exponent⟩ k) ∧ (k = 0 ∨ exponent - k = -1) := by
  unfold positional
  dsimp only
  split
  · exact ⟨0, (Decimal.padded_zero _).symm ▸ laid_behind_point h hplace ‹_›, .inl rfl⟩
  · split
    · exact ⟨exponent.toNat + 1, laid_before_point h hplace ‹_›, .inr (by omega)⟩
    · have hlaid := laid_around_point h hplace (by omega) (by omega)
      exact ⟨0, (Decimal.padded_zero _).symm ▸ hlaid, .inl rfl⟩

end

/-- The exponent is written as one that is read back. -/
theorem scale_exponentText (n : Int) : Scale ('e' :: exponentText n) n := by
  have hrun : Run (padLeft '0' 2 (digitText n.natAbs)) := by
    refine ⟨by simp [padLeft, (run_digitText _).ne_nil], fun c hc => ?_⟩
    rcases List.mem_append.1 hc with hc | hc
    · exact isDigit_of_mem_replicate hc
    · exact (run_digitText _).isDigit c hc
  have hvalue : figures (padLeft '0' 2 (digitText n.natAbs)) = n.natAbs := by
    rw [padLeft, figures_append, figures_replicate, Nat.zero_mul, Nat.zero_add, figures_digitText]
  unfold exponentText
  split
  · have hscale := Scale.negative hrun
    rwa [hvalue, show -(n.natAbs : Int) = n by omega] at hscale
  · have hscale := Scale.positive hrun
    rwa [hvalue, show (n.natAbs : Int) = n by omega] at hscale

/-- Digits with a point behind the first one, and an exponent, stand for the digits moved by the
exponent. -/
theorem laid_mantissaText {digits e : List Char} {n : Int} (h : Run digits) (he : Scale e n) :
    Laid (mantissaText digits ++ e) ⟨figures digits, n + 1 - digits.length⟩ := by
  unfold mantissaText
  split
  · exact absurd rfl h.ne_nil
  · rw [List.length_singleton, show n + 1 - (1 : Nat) = n by omega]
    exact .whole h he
  · rename_i d rest hrest
    have hfirst : Run [d] := ⟨by simp, fun c hc => h.isDigit c (by simp_all)⟩
    have hothers : Run rest := ⟨hrest, fun c hc => h.isDigit c (List.mem_cons_of_mem d hc)⟩
    rw [List.length_cons, show n + 1 - ((rest.length + 1 : Nat) : Int) = n - rest.length by omega]
    exact .pointed hfirst hothers he

/-- The shortest notation stands for the decimal, maybe with zeros up to the first decimal place. -/
theorem laid_text {d : Decimal} (hd : d.digits = 0 → d.exponent = 0) :
    ∃ k : Nat, Laid d.text (d.padded k) ∧ (k = 0 ∨ d.exponent - k = -1) := by
  obtain ⟨digits, exponent⟩ := d
  have hfigures := figures_digitText digits
  unfold Decimal.text
  dsimp only at hd ⊢
  split
  · rename_i hzero
    obtain rfl : digits = 0 := by simpa using hzero
    obtain rfl := hd rfl
    -- zero is written as 0.0
    exact ⟨1, .pointed (w := ['0']) (f := ['0']) ⟨by simp, by simp⟩ ⟨by simp, by simp⟩ .none,
      .inr rfl⟩
  · split
    · have hlaid := laid_positional (run_digitText digits)
        (show exponent + (digitText digits).length - 1 + 1 =
          exponent + (digitText digits).length by omega)
      rwa [hfigures] at hlaid
    -- too large or too small a number is written with an exponent
    · have hlaid := laid_mantissaText (run_digitText digits)
        (scale_exponentText (exponent + (digitText digits).length - 1))
      rw [hfigures, Int.sub_add_cancel, Int.add_sub_cancel] at hlaid
      refine ⟨0, ?_, .inl rfl⟩
      rwa [Decimal.padded, Nat.pow_zero, Nat.mul_one, Int.natCast_zero, Int.sub_zero]

/-- Leaving out an empty fraction leaves a layout: no exponent stands behind it. -/
theorem Laid.of_append {s : List Char} {d : Decimal} (h : Laid (s ++ ['.', '0']) d) :
    ∃ d' : Decimal, Laid s d' ∧ d'.padded 1 = d := by
  generalize ht : s ++ ['.', '0'] = t at h
  have hscale : ∀ {e : List Char} {n : Int}, Scale e n → '.' ∉ e := by
    intro e n he
    cases he with
    | none => simp
    | positive hs => simpa using hs.not_mem (by decide)
    | negative hs => simpa using hs.not_mem (by decide)
  cases h with
  | whole hw he =>
    -- a whole layout holds no point
    have hpoint : '.' ∈ s ++ ['.', '0'] := by simp
    rw [ht, List.mem_append] at hpoint
    exact absurd hpoint (not_or.2 ⟨hw.not_mem (by decide), hscale he⟩)
  | pointed hw hf he =>
    rename_i w f e n
    have hrest : '.' ∉ f ++ e := by
      rw [List.mem_append, not_or]
      exact ⟨hf.not_mem (by decide), hscale he⟩
    -- there is one point only, so the ending is the fraction
    obtain ⟨rfl, hfraction⟩ :=
      (List.append_cons_inj_of_notMem (hw.not_mem (by decide)) hrest).1 ht.symm
    obtain ⟨rfl, rfl⟩ : f = ['0'] ∧ e = [] := by
      obtain ⟨c, f, rfl⟩ := List.exists_cons_of_ne_nil hf.ne_nil
      simpa [and_assoc] using hfraction
    cases he with
    | none =>
      refine ⟨⟨figures w, 0⟩, ?_, ?_⟩
      · have hlaid := Laid.whole hw .none
        rwa [List.append_nil] at hlaid
      · rw [figures_append]
        rfl

/-- Moving zeros into the exponent leaves the decimal, which has them behind its digits. -/
theorem exists_padded_stripZeros (fuel : Nat) (d : Decimal) :
    ∃ k, (d.stripZeros fuel).padded k = d := by
  induction fuel generalizing d with
  | zero => exact ⟨0, d.padded_zero⟩
  | succ fuel ih =>
    rw [Decimal.stripZeros]
    split
    · rename_i hzero
      obtain ⟨k, hk⟩ := ih ⟨d.digits / 10, d.exponent + 1⟩
      refine ⟨k + 1, ?_⟩
      rw [← Decimal.padded_padded, hk]
      have hten : d.digits % 10 = 0 := by simp_all
      exact congrArg₂ Decimal.mk (by dsimp only; omega) (by dsimp only; omega)
    · exact ⟨0, d.padded_zero⟩

/-- A decimal without zeros at the end of its digits is the same one but for these. -/
theorem exists_padded_normal {d : Decimal} (h : d.digits ≠ 0) : ∃ k, d.normal.padded k = d := by
  rw [Decimal.normal, if_neg (by simpa using h)]
  exact exists_padded_stripZeros _ d

/-- Without digits, no exponent is left behind. -/
theorem exponent_normal {d : Decimal} (h : d.normal.digits = 0) : d.normal.exponent = 0 := by
  by_cases hd : d.digits = 0
  · rw [Decimal.normal, if_pos (by simpa using hd)]
  · obtain ⟨k, hk⟩ := exists_padded_normal hd
    refine absurd ?_ hd
    rw [← hk, Decimal.padded, h, Nat.zero_mul]

/-- The shortest digits of zero have the exponent zero. -/
theorem exponent_shortest {b : Binary} (h : b.shortest.digits = 0) : b.shortest.exponent = 0 := by
  revert h
  unfold Binary.shortest
  split
  · exact fun _ => rfl
  · exact exponent_normal

/-- The notation of a finite double, without an empty fraction, stands for the shortest decimal, but
for zeros behind its digits. -/
theorem literal?_plainText {x : Float} {negative : Bool} {b : Binary}
    (h : anatomy x = .finite negative b) : ∃ (d : Decimal) (j k : Nat),
      literal? (plainText x).toList = some ⟨negative, d⟩ ∧ d.padded j = b.shortest.padded k ∧
      min b.shortest.exponent (-1) ≤ d.exponent := by
  have htext : (text x).toList = (if negative then ['-'] else []) ++ b.shortest.text := by
    unfold text
    rw [h]
    cases negative <;> simp
  obtain ⟨k, hlaid, hk⟩ := laid_text (exponent_shortest (b := b))
  unfold plainText
  dsimp only
  rw [String.toList_ofList]
  cases hend : dropEnding? ['.', '0'] (text x).toList with
  | none =>
    rw [Option.getD_none, htext]
    exact ⟨_, 0, k, hlaid.literal? negative, Decimal.padded_zero _, by
      dsimp only [Decimal.padded]
      omega⟩
  | some t =>
    -- the sign stands before the ending that is left out
    obtain ⟨s, rfl, hs⟩ : ∃ s, t = (if negative then ['-'] else []) ++ s ∧
        b.shortest.text = s ++ ['.', '0'] := by
      rw [dropEnding?_eq_some_iff, htext] at hend
      cases negative with
      | false => exact ⟨t, rfl, hend⟩
      | true =>
        cases t with
        | nil => cases hend
        | cons c s =>
          obtain ⟨rfl, hs⟩ := List.cons.inj hend
          exact ⟨s, rfl, hs⟩
    rw [hs] at hlaid
    obtain ⟨d, hd, hpadded⟩ := hlaid.of_append
    have hexponent := congrArg Decimal.exponent hpadded
    exact ⟨d, 1, k, hd.literal? negative, hpadded, by
      dsimp only [Decimal.padded] at hexponent
      omega⟩

/-- A double is finite where it has a mantissa and an exponent. -/
theorem isFinite_iff {x : Float} :
    isFinite x = true ↔ ∃ negative b, anatomy x = .finite negative b := by
  unfold isFinite
  split
  · simp_all
  · simp_all

/-- A finite double in the shortest notation, and without an empty fraction, is a literal. -/
theorem exists_literal?_plainText {x : Float} (h : isFinite x = true) :
    ∃ l, literal? (plainText x).toList = some l := by
  obtain ⟨negative, b, hx⟩ := isFinite_iff.1 h
  obtain ⟨d, -, -, hl, -⟩ := literal?_plainText hx
  exact ⟨_, hl⟩

/-- What the notation of a double is read as. -/
def reread (x : Float) : Float :=
  ((literal? (plainText x).toList).map Literal.toFloat).getD x

/-- A number that is written as a literal is read again as the value of that literal. -/
theorem reread_of_literal? {x : Float} {l : Literal}
    (h : literal? (plainText x).toList = some l) : reread x = l.toFloat := by
  rw [reread, h, Option.map_some, Option.getD_some]

end Numeral

end Metrology
