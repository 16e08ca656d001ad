import Mathlib.Data.List.DropRight
import Metrology.Proofs.Session.Use
import Metrology.Proofs.Text.Replacing
import Metrology.Session.Standard

/-!
# Quantities written by a pattern

In a pattern, the places for the unit are marked by private characters, the number is written by the
pattern that is left, in whatever way the facilities of the session do it, and the texts of the unit
are put in for the marks. The places are replaced one
after another, and so are the marks; both come to the same as replacing all of them at once
(`substituted_withPlaces`, `substituted_fillPlaces`). So the number is written without regard to the
unit, and the texts of the unit stand in the result as they are (`format_by_pattern`).
-/

namespace Metrology

open Text

/-- The places for the unit in a pattern, each with the mark that takes its place. -/
def placeMarks : List (List Char × List Char) :=
  [(['U', 'G'], ['\ue000']), (['U', 'N'], ['\ue001']), (['U', 'S'], ['\ue002'])]

/-- The marks, each with the text of a unit that takes its place. -/
def unitTexts (unit : Denomination) : List (List Char × List Char) :=
  [(['\ue000'], unit.symbol.toList), (['\ue001'], unit.name.toList),
    (['\ue002'], unit.symbol.toList)]

/-- No mark occurs in the name and in the symbol of a unit. -/
structure Denomination.Unmarked (unit : Denomination) : Prop where
  name : ∀ c ∈ ['\ue000', '\ue001', '\ue002'], c ∉ unit.name.toList
  symbol : ∀ c ∈ ['\ue000', '\ue001', '\ue002'], c ∉ unit.symbol.toList

theorem withPlaces_eq_foldl (pattern : List Char) :
    withPlaces pattern = placeMarks.foldl (fun s e => replaceAll e.1 e.2 s) pattern :=
  rfl

theorem fillPlaces_eq_foldl (unit : Denomination) (s : List Char) :
    fillPlaces unit s = (unitTexts unit).foldl (fun s e => replaceAll e.1 e.2 s) s := by
  have hname : unit.format "UN" = unit.name := if_pos rfl
  have hsymbol : unit.format "US" = unit.symbol := if_neg (by decide)
  simp only [fillPlaces, unitPlaces, unitTexts, List.foldl_cons, List.foldl_nil, hname, hsymbol]

/-- Two places do not overlap: each begins with a letter that none ends with. -/
theorem substituted_withPlaces {s t : List Char} :
    Substituted placeMarks s t ↔ t = withPlaces s := by
  rw [withPlaces_eq_foldl]
  refine substituted_iff (by decide) (by decide) ?_
  have hapart : ∀ e ∈ placeMarks, ∀ e' ∈ placeMarks, Apart e e' := by
    intro e he e' he'
    have hall : ∀ e ∈ placeMarks, ∀ e' ∈ placeMarks, (∀ c ∈ e'.1, c ∉ e.2) ∧
        (e.2 ≠ [] ∨ e'.1.tail = []) ∧ ∀ c ∈ e'.1.tail, e.1.head? ≠ some c := by
      simp [placeMarks]
    obtain ⟨hdisjoint, hsolid, houtside⟩ := hall e he e' he'
    exact ⟨hdisjoint, hsolid, houtside⟩
  exact List.pairwise_of_forall_mem_list hapart

/-- A text that is put in for a mark has no marks in it. -/
theorem substituted_fillPlaces {unit : Denomination} (h : unit.Unmarked) {s t : List Char} :
    Substituted (unitTexts unit) s t ↔ t = fillPlaces unit s := by
  rw [fillPlaces_eq_foldl]
  -- each place is marked by one character, which the texts of the unit do not hold
  have hmark : ∀ e ∈ unitTexts unit, ∃ c ∈ ['\ue000', '\ue001', '\ue002'], e.1 = [c] := by
    simp [unitTexts]
  have htext : ∀ e ∈ unitTexts unit, e.2 = unit.name.toList ∨ e.2 = unit.symbol.toList := by
    simp [unitTexts]
  refine substituted_iff ?_ ?_ ?_
  · intro e he
    obtain ⟨c, -, hc⟩ := hmark e he
    simp [hc]
  · simp [unitTexts]
  · refine List.pairwise_of_forall_mem_list fun e he e' he' => ?_
    obtain ⟨c, hc, hkey⟩ := hmark e' he'
    refine ⟨?_, .inr (by rw [hkey, List.tail_cons]), by simp [hkey]⟩
    rw [hkey]
    intro d hd
    obtain rfl := List.mem_singleton.1 hd
    rcases htext e he with htext | htext
    · exact htext ▸ h.name d hc
    · exact htext ▸ h.symbol d hc

namespace Session

theorem ofFormat?_eq_none {fmt : String} (h : fmt ∉ ["GG", "GN", "GS", "NG", "NN", "NS"]) :
    Code.ofFormat? fmt = none := by
  unfold Code.ofFormat?
  split <;> simp_all

/-- Writing by a pattern without a bar is writing the number and then putting the unit in. -/
theorem format_eq_map {fmt : String} (hcode : fmt ∉ ["GG", "GN", "GS", "NG", "NN", "NS"])
    (hbar : '|' ∉ fmt.toList) (q : Quantity) (locale : Option String) (o : Option Nat) :
    format q (some fmt) locale none o =
      (fun number =>
          trimmedEnd (String.ofList (fillPlaces q.unit.toDenomination number.toList))) <$>
        formatNumber (.scalar (.real q.value)) (String.ofList (withPlaces fmt.toList)) locale := by
  rw [format_some, formatNumber, map_bind]
  refine congrArg (localeOf locale >>= ·) (funext fun l => ?_)
  rw [special, pure_bind, written, cutFirst?_eq_none hbar]
  dsimp only
  rw [writeBy, ofFormat?_eq_none hcode]
  dsimp only
  rw [writeByPattern, map_eq_pure_bind]

/-- What a quantity is written as by a pattern, which is any format that is no code and asks for no
conversion, whatever the facilities of the session are. There is one pattern that the number is
written by: the format with all places for the unit replaced at once by their marks. It depends on
the format only, so quantities with the same value have the same number written, whatever their
units, and fail alike. In what the facilities write for the value, the pattern and the locale, the
texts of the unit replace all marks at once, and white space at the end is left out. -/
theorem format_by_pattern (fmt : String) (hcode : fmt ∉ ["GG", "GN", "GS", "NG", "NN", "NS"])
    (hbar : '|' ∉ fmt.toList) :
    ∃ pattern, (∀ w, Substituted placeMarks fmt.toList w ↔ w = pattern) ∧
      ∀ q : Quantity, q.unit.Unmarked → ∃ filled : List Char → List Char,
        (∀ number w, Substituted (unitTexts q.unit) number w ↔ w = filled number) ∧
        ∀ (s t : Session) (locale : Option String) (o : Option Nat),
          (∀ f, (localeOf locale).run s = .error f t →
            (format q (some fmt) locale none o).run s = .error f t) ∧
          ∀ l, (localeOf locale).run s = .ok l t →
            (∀ number, s.facilities.numerals.write l (String.ofList pattern)
                (.scalar (.real q.value)) = .ok number →
              (format q (some fmt) locale none o).run s =
                .ok (String.ofList ((filled number.toList).rdropWhile isSpace)) t) ∧
            ∀ r, s.facilities.numerals.write l (String.ofList pattern)
                (.scalar (.real q.value)) = .error r →
              (format q (some fmt) locale none o).run s = .error r.fault t := by
  refine ⟨withPlaces fmt.toList, fun w => substituted_withPlaces, fun q hq => ?_⟩
  refine ⟨fillPlaces q.unit, fun number w => substituted_fillPlaces hq, fun s t locale o => ?_⟩
  rw [format_eq_map hcode hbar, run_map]
  refine ⟨fun f h => ?_, fun l h => ?_⟩
  · rw [formatNumber, run_bind_of_error h]
  · rw [formatNumber, run_writeNumber h]
    refine ⟨fun number hwrite => ?_, fun r hwrite => ?_⟩
    · rw [hwrite]
      simp only [trimmedEnd, String.toList_ofList, trimEnd, List.rdropWhile]
    · rw [hwrite]

/-- The texts of a unit stand in the result as they are, also where they look like parts of a
pattern. -/
theorem format_by_pattern_per_cent :
    (format ⟨5.0, ⟨.declare "'UG';0" "%US#" 0.01 1, 1⟩, 2⟩ (some "0 US UN ") (some "en_US") none
      none).run (.initial .standard true []) =
        .ok "5 %US# 'UG';0" (.initial .standard true []) := by
  let unit : Denomination := .declare "'UG';0" "%US#" 0.01 1
  have hsymbol : unit.symbol = "%US#" := by decide
  have hunit : unit.Unmarked := ⟨by simp [unit, Denomination.declare], by simp [hsymbol]⟩
  obtain ⟨pattern, hpattern, hformat⟩ := format_by_pattern "0 US UN " (by decide) (by decide)
  obtain ⟨filled, hfilled, hrun⟩ := hformat ⟨5.0, ⟨unit, 1⟩, 2⟩ hunit
  obtain rfl : "0 \ue002 \ue001 ".toList = pattern :=
    (hpattern _).1 (substituted_withPlaces.2 (by decide))
  have hfull : "5 %US# 'UG';0 ".toList = filled "5 \ue002 \ue001 ".toList :=
    (hfilled _ _).1 ((substituted_fillPlaces hunit).2 (by decide))
  have hwrite : Numerals.standard.write ⟨"en_US", {}⟩ "0 \ue002 \ue001 "
      (.scalar (.real 5.0)) = .ok "5 \ue002 \ue001 " := rfl
  have hwritten := ((hrun (.initial .standard true []) _ (some "en_US") none).2
    ⟨"en_US", {}⟩ rfl).1 "5 \ue002 \ue001 " hwrite
  rw [← hfull] at hwritten
  exact hwritten

end Session

end Metrology
