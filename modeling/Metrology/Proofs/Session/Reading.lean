import Metrology.Proofs.Expression.Terms
import Metrology.Proofs.Numeral.Literal
import Metrology.Proofs.Session.Operation
import Metrology.Session.Reading
import Metrology.Session.Standard

/-!
# The spellings of a quantity

Behind its number, a quantity may have its unit in parentheses, and ` neg` inside or outside of
them. What is left of each of these texts is the same unit text (`unitPart_plain` and the lemmas
behind it), so they are one reading but for the sign (`parseQuantity_of_unitPart`): they fail alike,
first for the number and then for the unit, and otherwise make quantities in the same unit whose
values are equal or opposite (`parseQuantity_spellings`).
-/

namespace Metrology

open Text Expression Session

/-- What turns the sign around behind a unit. -/
def negMark : List Char := [' ', 'n', 'e', 'g']

/-- A unit text has no parenthesis at either end and no ` neg` behind it. -/
structure Bare (unit : List Char) : Prop where
  opening : unit.head? ≠ some '('
  closing : unit.getLast? ≠ some ')'
  mark : ¬ negMark <:+ unit

namespace Expression

variable {s : List Char}

theorem withoutOpening_eq_self (h : s.head? ≠ some '(') : withoutOpening s = s :=
  if_neg h

theorem withoutClosing_eq_self (h : s.getLast? ≠ some ')') : withoutClosing s = s :=
  if_neg h

theorem withoutClosing_concat (s : List Char) : withoutClosing (s ++ [')']) = s := by
  simp [withoutClosing]

end Expression

/-! ## What is left of a unit text -/

section UnitPart

variable {s unit : List Char}

/-- The parentheses at the ends are taken off first, whether or not they belong together. -/
theorem unitPart_eq (s : List Char) :
    unitPart s = match dropEnding? negMark (withoutClosing (withoutOpening s)) with
      | none => (withoutClosing (withoutOpening s), false)
      | some s => (withoutClosing s, true) := by
  simp only [unitPart, getD_dropStart?, getD_dropEnding?]
  rfl

/-- An ending that is there is dropped. -/
theorem dropEnding?_append (ending s : List Char) : dropEnding? ending (s ++ ending) = some s :=
  dropEnding?_eq_some_iff.2 rfl

theorem dropEnding?_eq_none (h : ¬ negMark <:+ s) : dropEnding? negMark s = none := by
  refine Option.eq_none_iff_forall_ne_some.2 fun t ht => h ⟨t, ?_⟩
  exact (dropEnding?_eq_some_iff.1 ht).symm

/-- The mark does not end with a parenthesis. -/
theorem withoutClosing_append_negMark (s : List Char) :
    withoutClosing (s ++ negMark) = s ++ negMark :=
  withoutClosing_eq_self (by simp [negMark])

/-- The mark does not begin with a parenthesis. -/
theorem Bare.withoutOpening_append_negMark (h : Bare unit) :
    withoutOpening (unit ++ negMark) = unit ++ negMark := by
  refine withoutOpening_eq_self ?_
  cases unit with
  | nil => simp [negMark]
  | cons c unit => exact h.opening

/-- A bare unit is read as it stands. -/
theorem Bare.unitPart_plain (h : Bare unit) : unitPart unit = (unit, false) := by
  rw [unitPart_eq, withoutOpening_eq_self h.opening, withoutClosing_eq_self h.closing,
    dropEnding?_eq_none h.mark]

/-- A unit in brackets is read without them. -/
theorem Bare.unitPart_enclosed (h : Bare unit) :
    unitPart ('(' :: (unit ++ [')'])) = (unit, false) := by
  have hopening : withoutOpening ('(' :: (unit ++ [')'])) = unit ++ [')'] := rfl
  rw [unitPart_eq, hopening, withoutClosing_concat, dropEnding?_eq_none h.mark]

/-- The mark behind the unit turns the value around. -/
theorem Bare.unitPart_neg (h : Bare unit) : unitPart (unit ++ negMark) = (unit, true) := by
  rw [unitPart_eq, h.withoutOpening_append_negMark, withoutClosing_append_negMark,
    dropEnding?_append]
  dsimp only
  rw [withoutClosing_eq_self h.closing]

/-- The mark is read inside the brackets, too. -/
theorem Bare.unitPart_neg_inside (h : Bare unit) :
    unitPart ('(' :: (unit ++ negMark ++ [')'])) = (unit, true) := by
  have hopening : withoutOpening ('(' :: (unit ++ negMark ++ [')'])) = unit ++ negMark ++ [')'] :=
    rfl
  rw [unitPart_eq, hopening, withoutClosing_concat, dropEnding?_append]
  dsimp only
  rw [withoutClosing_eq_self h.closing]

/-- The closing parenthesis in front of the mark is taken off behind it. -/
theorem unitPart_neg_outside (unit : List Char) :
    unitPart ('(' :: (unit ++ [')'] ++ negMark)) = (unit, true) := by
  have hopening : withoutOpening ('(' :: (unit ++ [')'] ++ negMark)) = unit ++ [')'] ++ negMark :=
    rfl
  rw [unitPart_eq, hopening, withoutClosing_append_negMark, dropEnding?_append]
  dsimp only
  rw [withoutClosing_concat]

end UnitPart

namespace Session

variable {number unit text : String} {rest : List Char} {negative : Bool} {s t u : Session}

/-! ## Reading a number and a unit -/

/-- The number in the text of a quantity: what stands before the first blank. -/
def numberText (text : String) : String :=
  match cutFirst? ' ' text.toList with
  | none => text
  | some (number, _) => String.ofList number

/-- The unit expression in the text of a quantity, which may be empty. -/
def unitText (text : String) : String :=
  match cutFirst? ' ' text.toList with
  | none => ""
  | some (_, unit) => String.ofList (unitPart unit).1

/-- Whether the text of a quantity turns the sign around at its end. -/
def turnsSign (text : String) : Bool :=
  match cutFirst? ' ' text.toList with
  | none => false
  | some (_, unit) => (unitPart unit).2

/-- The quantity of a number and a unit text. -/
def readParts (number unit : String) (negative : Bool) (locale : Option String) (o : Option Nat) :
    SessionM Quantity := do
  let value ← readNumber number locale
  let m ← parseUnit o unit
  quantity (if negative then -value else value) m

/-- A text that is not empty is read as its number and its unit text; a number alone is one without
a unit. -/
theorem parseQuantity_of_ne (h : text ≠ "") (locale : Option String) (o : Option Nat) :
    parseQuantity text locale o = some <$> countedParse .amount aboutQuantity
      (readParts (numberText text) (unitText text) (turnsSign text) locale o) := by
  unfold parseQuantity
  rw [if_neg (by simpa [String.isEmpty_iff] using h)]
  unfold readQuantity numberText unitText turnsSign
  cases cutFirst? ' ' text.toList with
  | none => rfl
  | some parts => rfl

/-- A text that is cut into a number and a unit text is read as these. -/
theorem parseQuantity_of_unitPart (hblank : ' ' ∉ number.toList)
    (htext : text.toList = number.toList ++ ' ' :: rest)
    (hrest : unitPart rest = (unit.toList, negative)) (locale : Option String) (o : Option Nat) :
    parseQuantity text locale o = some <$>
      countedParse .amount aboutQuantity (readParts number unit negative locale o) := by
  have hne : text ≠ "" := by
    rintro rfl
    simp at htext
  have hcut : cutFirst? ' ' text.toList = some (number.toList, rest) := by
    rw [htext, cutFirst?_append hblank]
  rw [parseQuantity_of_ne hne, numberText, unitText, turnsSign, hcut]
  simp only [hrest, String.ofList_toList]

/-- A number alone is a number without a unit. -/
theorem parseQuantity_of_number (hnumber : number ≠ "") (hblank : ' ' ∉ number.toList)
    (locale : Option String) (o : Option Nat) :
    parseQuantity number locale o = some <$>
      countedParse .amount aboutQuantity (readParts number "" false locale o) := by
  rw [parseQuantity_of_ne hnumber, numberText, unitText, turnsSign, cutFirst?_eq_none hblank]

/-- A session after a reading that failed, which is counted if the fault is about the text. -/
def unread (f : Fault) (s : Session) : Session :=
  if aboutQuantity f then after (count (.parse .amount false)) s else s

/-- A session after a reading that made a quantity. -/
def hasRead (s : Session) : Session :=
  after (count (.parse .amount true)) { s with nextSerial := s.nextSerial + 1 }

/-- A reading of a quantity that fails is counted where the text is at fault. -/
theorem run_counted_quantity_of_error {x : SessionM Quantity} {f : Fault}
    (h : x.run s = .error f t) :
    (some <$> countedParse .amount aboutQuantity x).run s = .error f (unread f t) := by
  rw [run_map]
  cases hf : aboutQuantity f with
  | true => rw [run_countedParse_of_error h _ _ hf, unread, if_pos hf]
  | false => rw [run_countedParse_of_not_about h _ _ hf, unread, if_neg (by simp [hf])]

/-- A reading of a quantity that succeeds is counted once. -/
theorem run_counted_quantity_of_ok {x : SessionM Quantity} {q : Quantity} (h : x.run s = .ok q t) :
    (some <$> countedParse .amount aboutQuantity x).run s =
      .ok (some q) (after (count (.parse .amount true)) t) := by
  rw [run_map, run_countedParse_of_ok h]

/-! ## Five spellings -/

/-- The ways to write a quantity, and whether they turn the sign around. -/
def spellings (number unit : String) : List (String × Bool) :=
  [(number ++ " " ++ unit, false), (number ++ " (" ++ unit ++ ")", false),
    (number ++ " " ++ unit ++ " neg", true), (number ++ " (" ++ unit ++ " neg)", true),
    (number ++ " (" ++ unit ++ ") neg", true)]

/-- Each way is the number, a blank, and a text of which the unit is left. -/
theorem exists_unitPart_of_mem_spellings (h : Bare unit.toList)
    (hmem : (text, negative) ∈ spellings number unit) :
    ∃ rest, text.toList = number.toList ++ ' ' :: rest ∧
      unitPart rest = (unit.toList, negative) := by
  simp only [spellings, List.mem_cons, Prod.mk.injEq, List.not_mem_nil, or_false] at hmem
  rcases hmem with ⟨rfl, rfl⟩ | ⟨rfl, rfl⟩ | ⟨rfl, rfl⟩ | ⟨rfl, rfl⟩ | ⟨rfl, rfl⟩
  · exact ⟨_, by simp, h.unitPart_plain⟩
  · exact ⟨_, by simp, h.unitPart_enclosed⟩
  · exact ⟨_, by simp [negMark], h.unitPart_neg⟩
  · exact ⟨_, by simp [negMark], h.unitPart_neg_inside⟩
  · exact ⟨_, by simp [negMark], unitPart_neg_outside _⟩

/-- The spellings of a quantity are read alike in a session. -/
structure ReadAlike (number unit : String) (locale : Option String) (o : Option Nat)
    (s : Session) : Prop where
  /-- The number is the one that the facilities of the session read in the locale. -/
  read : ∀ l t, (localeOf locale).run s = .ok l t → (readNumber number locale).run s =
    match s.facilities.numerals.read l (String.ofList (trim isSpace number.toList)) with
    | .ok x => .ok x t
    | .error (.noNumber seen cause) => .error (.badNumber number seen cause) t
    | .error (.refused r) => .error r.fault t
  /-- A locale that is refused fails all of them alike. -/
  localeFails : ∀ f t, (localeOf locale).run s = .error f t →
    ∀ p ∈ spellings number unit, (parseQuantity p.1 locale o).run s = .error f (unread f t)
  /-- A number that is not one is reported before the unit is looked at. -/
  numberFails : ∀ f t, (readNumber number locale).run s = .error f t →
    ∀ p ∈ spellings number unit, (parseQuantity p.1 locale o).run s = .error f (unread f t)
  /-- A unit that is not one is reported in the same way. -/
  unitFails : ∀ x t f u, (readNumber number locale).run s = .ok x t →
    (parseUnit o unit).run t = .error f u →
    ∀ p ∈ spellings number unit, (parseQuantity p.1 locale o).run s = .error f (unread f u)
  /-- Otherwise the values are equal or opposite, and the unit is the one that is read. -/
  succeeds : ∀ x t m u, (readNumber number locale).run s = .ok x t →
    (parseUnit o unit).run t = .ok m u →
    ∀ p ∈ spellings number unit, (parseQuantity p.1 locale o).run s =
      .ok (some ⟨if p.2 then -x else x, m, u.nextSerial⟩) (hasRead u)
  /-- The number alone is read as it is where the unit is empty. -/
  alone : (parseQuantity number locale o).run s = (parseQuantity (number ++ " ") locale o).run s

/-- In every session, whatever locales its facilities know and however they read numbers, for every
number text without a blank and every unit text without parentheses at its ends and ` neg` behind
it, the five ways to write the quantity are read alike. -/
theorem parseQuantity_spellings (number unit : String) (hnumber : number ≠ "")
    (hblank : ' ' ∉ number.toList) (hunit : Bare unit.toList) (locale : Option String)
    (o : Option Nat) (s : Session) : ReadAlike number unit locale o s := by
  have hparse : ∀ p ∈ spellings number unit, parseQuantity p.1 locale o =
      some <$> countedParse .amount aboutQuantity (readParts number unit p.2 locale o) := by
    intro p hp
    obtain ⟨rest, htext, hrest⟩ := exists_unitPart_of_mem_spellings hunit hp
    exact parseQuantity_of_unitPart hblank htext hrest locale o
  have hnumberFails : ∀ f t, (readNumber number locale).run s = .error f t →
      ∀ p ∈ spellings number unit,
        (parseQuantity p.1 locale o).run s = .error f (unread f t) := by
    intro f t hx p hp
    rw [hparse p hp]
    exact run_counted_quantity_of_error (run_bind_of_error hx _)
  refine ⟨fun l t hl => run_readNumber hl number,
    fun f t hl => hnumberFails f t (run_bind_of_error hl _), hnumberFails,
    fun x t f u hx hm p hp => ?_, fun x t m u hx hm p hp => ?_, ?_⟩
  · rw [hparse p hp]
    refine run_counted_quantity_of_error (t := u) ?_
    rw [readParts, run_bind_of_ok hx]
    exact run_bind_of_error hm _
  · rw [hparse p hp]
    refine run_counted_quantity_of_ok ?_
    rw [readParts, run_bind_of_ok hx, run_bind_of_ok hm]
    rfl
  · have hempty : Bare "".toList := ⟨by decide, by decide, by decide⟩
    have htext : (number ++ " ").toList = number.toList ++ ' ' :: [] := String.toList_append
    rw [parseQuantity_of_number hnumber hblank,
      parseQuantity_of_unitPart hblank htext hempty.unitPart_plain]

/-- The opposite of five without a unit, and a text whose number is not one. -/
theorem parseQuantity_spellings_five :
    (∃ q t, (parseQuantity "5 () neg" none none).run (start true []) = .ok (some q) t ∧
      q.value = -5.0 ∧ q.unit = .one) ∧
    ∃ cause t, (parseQuantity "five (km/h neg)" none none).run (start true []) =
      .error (.badNumber "five" "five" cause) t := by
  constructor
  · have hread := parseQuantity_spellings "5" "" (by decide) (by decide)
      ⟨by decide, by decide, by decide⟩ none none (start true [])
    exact ⟨_, _, hread.succeeds _ _ _ _ rfl rfl ("5 () neg", true) (by decide), by decide, rfl⟩
  · have hread := parseQuantity_spellings "five" "km/h" (by decide)
      (by decide) ⟨by decide, by decide, by decide⟩ none none (start true [])
    exact ⟨_, _, hread.numberFails _ _ rfl ("five (km/h neg)", true) (by decide)⟩

end Session

end Metrology
