import Metrology.Proofs.Measure.Squeezing
import Metrology.Proofs.Session.Faults
import Metrology.Session.Standard

/-!
# Where an empty term stands

An empty term is reported with the text that was read and with an offset. In a text, a term begins
behind an opening parenthesis, at the beginning or behind a run of one operator, and the first empty
one is where there is only white space up to the next operator (`FirstEmpty`). The offset counts the
characters of the condensed text in front of it (`offset_of_emptyTerm`). So it falls short of the
position in the text by the opening parenthesis and by the repeated operators in front: `(m/)` is
reported with the offset 2, although the empty term begins at 3.
-/

namespace Metrology

open Text

/-! ## Terms in a text with repeated operators -/

/-- Squeezing makes no text longer. -/
theorem length_squeeze_le (s : List Char) : (squeeze s).length ≤ s.length := by
  rw [squeeze_eq_destutter]
  exact (List.destutter_sublist _ s).length_le

/-- A text that squeezing leaves as long as it was has no repeated operators. -/
theorem eq_of_length_squeeze {s : List Char} (h : (squeeze s).length = s.length) :
    squeeze s = s := by
  rw [squeeze_eq_destutter] at h ⊢
  exact (List.destutter_sublist _ s).eq_of_length h

theorem squeeze_eq_nil_iff {s : List Char} : squeeze s = [] ↔ s = [] := by
  rw [squeeze_eq_destutter, List.destutter_eq_nil]

/-- Squeezing leaves the last character. -/
theorem getLast?_squeeze (s : List Char) : (squeeze s).getLast? = s.getLast? := by
  fun_induction squeeze s with
  | case1 => rfl
  | case2 c => rfl
  | case3 c d s h ih => rw [ih, List.getLast?_cons_cons]
  | case4 c d s h ih =>
    rw [List.getLast?_cons, ih, List.getLast?_cons_cons, List.getLast?_cons]
    simp

namespace Expression

/-- The characters of a text up to the first operator. -/
def span (s : List Char) : List Char := s.takeWhile fun c => !Join.isOperator c

/-- Squeezing a text leaves what stands in front of its first operator. -/
theorem span_squeeze (s : List Char) : span (squeeze s) = span s := by
  unfold span
  fun_induction squeeze s with
  | case1 => rfl
  | case2 c => rfl
  | case3 c d s h ih =>
    obtain ⟨rfl, hop⟩ : c = d ∧ Join.isOperator c = true := by
      simpa [Join.isOperator] using h
    simpa [hop] using ih
  | case4 c d s h ih => rw [List.takeWhile_cons, List.takeWhile_cons, ih]

/-- Between two parts of a text a term begins: nothing stands in front, or an operator that is not
repeated. -/
def Begins (before rest : List Char) : Prop :=
  before = [] ∨ ∃ c, before.getLast? = some c ∧ Join.isOperator c = true ∧ rest.head? ≠ some c

/-- Where a term begins, the two parts of the text are squeezed apart from each other. -/
theorem Begins.squeeze_append {before rest : List Char} (h : Begins before rest) :
    squeeze (before ++ rest) = squeeze before ++ squeeze rest := by
  refine Metrology.squeeze_append fun d hd _ => ?_
  rcases h with rfl | ⟨c, hc, -, hne⟩
  · cases hd
  · rw [hc] at hd
    cases hd
    exact hne

/-- Behind an operator that stands in the squeezed text, a term begins in the text itself. -/
theorem exists_begins {s u v : List Char} {c : Char} (hs : squeeze s = u ++ c :: v)
    (hc : Join.isOperator c = true) :
    ∃ before rest, s = before ++ rest ∧ before.getLast? = some c ∧ rest.head? ≠ some c ∧
      squeeze before = u ++ [c] ∧ squeeze rest = v := by
  fun_induction squeeze s generalizing u with
  | case1 => simp at hs
  | case2 e =>
    obtain ⟨rfl, rfl, rfl⟩ : u = [] ∧ c = e ∧ v = [] := by
      simpa [List.singleton_eq_append_iff] using hs
    exact ⟨[c], [], rfl, rfl, by simp, rfl, rfl⟩
  | case3 e d s hed ih =>
    obtain ⟨before, rest, hsplit, hlast, hhead, hu, hv⟩ := ih hs
    -- the repeated operator joins what stands in front
    cases before with
    | nil => cases hlast
    | cons b before =>
      obtain ⟨rfl, rfl⟩ := List.cons.inj hsplit
      refine ⟨e :: d :: before, rest, rfl, ?_, hhead, ?_, hv⟩
      · rwa [List.getLast?_cons_cons]
      · rw [squeeze, if_pos hed, hu]
  | case4 e d s hed ih =>
    cases u with
    | nil =>
      obtain ⟨rfl, rfl⟩ := List.cons.inj hs
      refine ⟨[e], d :: s, rfl, rfl, ?_, rfl, rfl⟩
      rintro ⟨⟩
      exact hed (by simpa [Join.isOperator] using hc)
    | cons a u =>
      obtain ⟨rfl, htail⟩ := List.cons.inj hs
      obtain ⟨before, rest, hsplit, hlast, hhead, hu, hv⟩ := ih htail
      cases before with
      | nil => cases hlast
      | cons b before =>
        obtain ⟨rfl, rfl⟩ := List.cons.inj hsplit
        refine ⟨e :: d :: before, rest, rfl, ?_, hhead, ?_, hv⟩
        · rwa [List.getLast?_cons_cons]
        · rw [squeeze, if_neg hed, hu]
          rfl

/-- The first term is what stands in front of the first operator. -/
theorem head_ofChars (offset : Nat) (s : List Char) :
    (ofChars offset s).head = ⟨span s, offset⟩ := by
  induction s generalizing offset with
  | nil => rfl
  | cons c s ih =>
    rw [span, List.takeWhile_cons, isOperator_eq_isSome]
    cases h : Join.ofChar? c with
    | some join => rw [ofChars_of_some h]; rfl
    | none => rw [ofChars_of_none h, ih]; rfl

/-- Behind the first term, there is one behind each operator. -/
theorem mem_tail_ofChars {offset : Nat} {s : List Char} {t : Term} :
    t ∈ (ofChars offset s).tail.map (·.2) ↔
      ∃ u c v, s = u ++ c :: v ∧ Join.isOperator c = true ∧
        t = ⟨span v, offset + u.length + 1⟩ := by
  induction s generalizing offset with
  | nil => simp [ofChars]
  | cons d s ih =>
    have hshift (n : Nat) : offset + 1 + n + 1 = offset + (n + 1) + 1 := by omega
    -- an operator is the first character, or stands further on
    have hcases : (∃ u c v, d :: s = u ++ c :: v ∧ Join.isOperator c = true ∧
          t = ⟨span v, offset + u.length + 1⟩) ↔
        (Join.isOperator d = true ∧ t = ⟨span s, offset + 1⟩) ∨
          t ∈ (ofChars (offset + 1) s).tail.map (·.2) := by
      rw [ih]
      constructor
      · rintro ⟨u, c, v, hs, hc, rfl⟩
        cases u with
        | nil =>
          obtain ⟨rfl, rfl⟩ := List.cons.inj hs
          exact .inl ⟨hc, rfl⟩
        | cons a u =>
          obtain ⟨rfl, htail⟩ := List.cons.inj hs
          exact .inr ⟨u, c, v, htail, hc, by rw [hshift, List.length_cons]⟩
      · rintro (⟨hd, rfl⟩ | ⟨u, c, v, rfl, hc, rfl⟩)
        · exact ⟨[], d, s, rfl, hd, rfl⟩
        · exact ⟨d :: u, c, v, rfl, hc, by rw [hshift, List.length_cons]⟩
    rw [hcases, isOperator_eq_isSome]
    cases h : Join.ofChar? d with
    | some join => simp [ofChars_of_some h, head_ofChars]
    | none => simp [ofChars_of_none h]

/-- A term stands at the beginning or right behind an operator, and its offset counts what is before
it. -/
theorem mem_terms_ofChars {offset : Nat} {s : List Char} {t : Term} :
    t ∈ (ofChars offset s).terms ↔ t = ⟨span s, offset⟩ ∨
      ∃ u c v, s = u ++ c :: v ∧ Join.isOperator c = true ∧
        t = ⟨span v, offset + u.length + 1⟩ := by
  rw [terms, List.mem_cons, head_ofChars, mem_tail_ofChars]

/-- The terms of a text are where terms begin in it. Their offsets count what is left of the text
in front of them. -/
theorem mem_terms_squeeze {s : List Char} {t : Term} : t ∈ (ofChars 0 (squeeze s)).terms ↔
    ∃ before rest, s = before ++ rest ∧ Begins before rest ∧
      t = ⟨span rest, (squeeze before).length⟩ := by
  rw [mem_terms_ofChars]
  constructor
  · rintro (rfl | ⟨u, c, v, hs, hc, rfl⟩)
    · exact ⟨[], s, rfl, .inl rfl, by rw [span_squeeze]; rfl⟩
    -- an operator of the squeezed text comes from the last of a run in the text
    · obtain ⟨before, rest, rfl, hlast, hhead, hu, rfl⟩ := exists_begins hs hc
      refine ⟨before, rest, rfl, .inr ⟨c, hlast, hc, hhead⟩, ?_⟩
      rw [span_squeeze, hu, List.length_append, List.length_singleton, Nat.zero_add]
  · rintro ⟨before, rest, rfl, hbegins, rfl⟩
    have happend := hbegins.squeeze_append
    rcases hbegins with rfl | ⟨c, hlast, hc, -⟩
    · exact .inl (by rw [span_squeeze]; rfl)
    -- the operator in front of the term is the last character before it
    · obtain ⟨u, hu⟩ := List.getLast?_eq_some_iff.1 ((getLast?_squeeze before).trans hlast)
      refine .inr ⟨u, c, squeeze rest, ?_, hc, ?_⟩
      · rw [happend, hu, List.append_assoc, List.singleton_append]
      · rw [span_squeeze, hu, List.length_append, List.length_singleton, Nat.zero_add]

/-- Pieces are placed from left to right. -/
theorem le_offset_of_mem_placed {offset : Nat} {ps : List (List Char)} {t : Term}
    (h : t ∈ placed offset ps) : offset ≤ t.offset := by
  induction ps generalizing offset with
  | nil => cases h
  | cons p ps ih =>
    rcases List.mem_cons.1 h with rfl | h
    · exact le_rfl
    · have := ih h
      omega

/-- The terms stand in the order of their offsets. -/
theorem pairwise_terms (offset : Nat) (s : List Char) :
    (ofChars offset s).terms.Pairwise (·.offset < ·.offset) := by
  rw [terms_ofChars]
  induction s.splitOnP Join.isOperator generalizing offset with
  | nil => exact .nil
  | cons p ps ih =>
    refine .cons (fun t ht => ?_) (ih _)
    have hle := le_offset_of_mem_placed ht
    exact Nat.lt_of_lt_of_le (by simp only; omega) hle

/-- The empty term that is found stands in front of every other one. -/
theorem offset_le_of_emptyTerm? {e : Expression} {t t' : Term}
    (hsorted : e.terms.Pairwise (·.offset < ·.offset)) (h : e.emptyTerm? = some t)
    (ht' : t' ∈ e.terms) (hvacant : isVacant t'.text = true) : t.offset ≤ t'.offset := by
  obtain ⟨-, front, back, hsplit, hfront⟩ := List.find?_eq_some_iff_append.1 h
  rw [hsplit] at ht' hsorted
  rcases List.mem_append.1 ht' with hmem | hmem
  · have := hfront t' hmem
    simp [hvacant] at this
  · rcases List.mem_cons.1 hmem with rfl | hmem
    · exact le_rfl
    · exact ((List.pairwise_cons.1 (List.pairwise_append.1 hsorted).2.1).1 t' hmem).le

/-! ## The first empty term of a text -/

/-- In a text without the parentheses at its ends, an empty term stands between two parts and it is
the first one: from there to the next operator or the end is white space only. -/
structure FirstEmpty (s before rest : List Char) : Prop where
  split : s = before ++ rest
  begins : Begins before rest
  vacant : isVacant (span rest) = true
  first : ∀ b r, s = b ++ r → Begins b r → isVacant (span r) = true → before.length ≤ b.length

/-- A text has one first empty term. -/
theorem FirstEmpty.unique {s before rest before' rest' : List Char} (h : FirstEmpty s before rest)
    (h' : FirstEmpty s before' rest') : before = before' ∧ rest = rest' :=
  List.append_inj (h.split.symm.trans h'.split)
    (le_antisymm (h.first _ _ h'.split h'.begins h'.vacant)
      (h'.first _ _ h.split h.begins h.vacant))

/-- What is squeezed grows from one beginning of a term to the next. -/
theorem Begins.length_squeeze_lt {b r before rest : List Char} (h : Begins b r)
    (hs : b ++ r = before ++ rest) (hlt : b.length < before.length) :
    (squeeze b).length < (squeeze before).length := by
  -- what lies between the two places is squeezed apart from what is before it
  obtain ⟨m, rfl, rfl⟩ : ∃ m, before = b ++ m ∧ r = m ++ rest := by
    rcases List.append_eq_append_iff.1 hs with ⟨m, h₁, h₂⟩ | ⟨m, rfl, -⟩
    · exact ⟨m, h₁, h₂⟩
    · rw [List.length_append] at hlt
      omega
  have hm : m ≠ [] := by
    rintro rfl
    simp at hlt
  have hbegins : Begins b m := by
    rcases h with h | ⟨c, hlast, hc, hhead⟩
    · exact .inl h
    · rw [List.head?_append_of_ne_nil _ hm] at hhead
      exact .inr ⟨c, hlast, hc, hhead⟩
  rw [hbegins.squeeze_append, List.length_append]
  have := List.length_pos_iff.2 (mt squeeze_eq_nil_iff.1 hm)
  omega

/-- A text without the parentheses at its ends. -/
def body (text : String) : List Char := withoutClosing (withoutOpening text.toList)

/-- The terms of a text are those of its squeezed body, counted from there. -/
theorem ofText_eq_squeeze (text : String) : ofText text = ofChars 0 (squeeze (body text)) := by
  rw [ofText, normalize_eq_condensed, condensed, ← squeeze_eq_destutter, body]

/-- The empty term that is found is the first one in the text. -/
theorem exists_firstEmpty {text : String} {t : Term} (h : (ofText text).emptyTerm? = some t) :
    ∃ before rest, FirstEmpty (body text) before rest ∧
      t.offset = (squeeze before).length := by
  rw [ofText_eq_squeeze] at h
  obtain ⟨before, rest, hsplit, hbegins, rfl⟩ := mem_terms_squeeze.1 (List.mem_of_find?_eq_some h)
  have hvacant := List.find?_some (p := fun t : Term => isVacant t.text) h
  refine ⟨before, rest, ⟨hsplit, hbegins, hvacant, ?_⟩, rfl⟩
  intro b r hs hb hvacant
  have hmem := mem_terms_squeeze.2 ⟨b, r, hs, hb, rfl⟩
  have hle := offset_le_of_emptyTerm? (pairwise_terms _ _) h hmem hvacant
  by_contra hlt
  have := hb.length_squeeze_lt (hs.symm.trans hsplit) (not_le.1 hlt)
  exact absurd hle (not_le.2 this)

/-- The first empty term of a text is found. -/
theorem FirstEmpty.emptyTerm? {text : String} {before rest : List Char}
    (h : FirstEmpty (body text) before rest) :
    ∃ t, (ofText text).emptyTerm? = some t ∧ t.offset = (squeeze before).length := by
  have hmem := mem_terms_squeeze.2 ⟨before, rest, h.split, h.begins, rfl⟩
  rw [← ofText_eq_squeeze] at hmem
  cases hterm : (ofText text).emptyTerm? with
  | none => exact absurd h.vacant (List.find?_eq_none.1 hterm _ hmem)
  | some t =>
    obtain ⟨before', rest', h', ht⟩ := exists_firstEmpty hterm
    obtain ⟨rfl, -⟩ := h.unique h'
    exact ⟨t, rfl, ht⟩

/-! ## Positions in a text -/

/-- The parenthesis at the beginning of a text, if there is one. -/
def opening (text : String) : List Char :=
  if text.toList.head? = some '(' then ['('] else []

/-- The parenthesis at the end of a text, if there is one. -/
def closing (text : String) : List Char :=
  if (withoutOpening text.toList).getLast? = some ')' then [')'] else []

/-- A text is its body between what is dropped in front and behind. -/
theorem opening_append_body (text : String) :
    text.toList = opening text ++ (body text ++ closing text) := by
  have hopening : text.toList = opening text ++ withoutOpening text.toList := by
    unfold opening withoutOpening
    split
    · rename_i h
      obtain ⟨s, hs⟩ := List.head?_eq_some_iff.1 h
      rw [hs]
      rfl
    · rfl
  have hclosing : withoutOpening text.toList = body text ++ closing text := by
    unfold body closing withoutClosing
    split
    · rename_i h
      exact (List.dropLast_append_getLast? _ h).symm
    · exact (List.append_nil _).symm
  rw [← hclosing, ← hopening]

/-- An empty term stands at a position of a text: nothing is in front of it but an operator or the
parenthesis at the beginning, and there is only white space up to the next operator, the
parenthesis at the end or the end. -/
structure EmptyAt (text : String) (position : Nat) : Prop where
  le_length : position ≤ text.length
  begins : text.toList.take position = [] ∨ text.toList.take position = ['('] ∨
    ∃ c, (text.toList.take position).getLast? = some c ∧ Join.isOperator c = true
  vacant : isVacant (span ((opening text ++ body text).drop position)) = true

/-- The position in a text behind the beginning of what stands between its parentheses. -/
def position (text : String) (before : List Char) : Nat :=
  (opening text).length + before.length

/-- The first empty term stands where it begins between the parentheses. -/
theorem FirstEmpty.emptyAt {text : String} {before rest : List Char}
    (h : FirstEmpty (body text) before rest) : EmptyAt text (position text before) := by
  have htext := opening_append_body text
  rw [h.split, List.append_assoc, ← List.append_assoc (opening text)] at htext
  have htake : text.toList.take (position text before) = opening text ++ before := by
    rw [htext, position, ← List.length_append, List.take_left]
  -- within the text, behind nothing but a bracket or an operator, and followed by no unit
  refine ⟨?_, ?_, ?_⟩
  · rw [← String.length_toList, htext, List.length_append, List.length_append, position]
    exact Nat.le_add_right _ _
  · rw [htake]
    rcases h.begins with rfl | ⟨c, hlast, hc, -⟩
    · rw [List.append_nil, opening]
      split
      · exact .inr (.inl rfl)
      · exact .inl rfl
    · exact .inr (.inr ⟨c, by rw [List.getLast?_append, hlast]; rfl, hc⟩)
  · rw [h.split, ← List.append_assoc, position, ← List.length_append, List.drop_left]
    exact h.vacant

end Expression

namespace Session

open Expression

variable {α β : Type} {P : Fault → Prop}

/-! ## Reported offsets -/

/-- An empty term is reported of a text that has one, whatever is registered. -/
theorem exists_emptyTerm_iff {s : Session} {o : Option Nat} {text quoted : String} {i : Nat} :
    (∃ t, (parseUnit o text).run s = .error (.emptyTerm i quoted) t) ↔
      text ≠ "" ∧ quoted = text ∧
        ∃ term, (Expression.ofText text).emptyTerm? = some term ∧ term.offset = i := by
  by_cases htext : text = ""
  · subst htext
    constructor
    · rintro ⟨t, ht⟩
      cases ht
    · rintro ⟨hne, -⟩
      exact absurd rfl hne
  rw [parseUnit_of_ne htext]
  cases hterm : (Expression.ofText text).emptyTerm? with
  | some term =>
    have hrun := run_countedParse_of_error (run_evaluate_of_emptyTerm hterm o s) .unit
      aboutExpression rfl
    rw [run_bind_of_error hrun realize]
    constructor
    · rintro ⟨t, ht⟩
      cases ht
      exact ⟨htext, rfl, term, rfl, rfl⟩
    · rintro ⟨-, rfl, _, ⟨⟩, rfl⟩
      exact ⟨_, rfl⟩
  | none =>
    -- without an empty term, reading fails by other faults only
    have hfails : FailsOnly (fun f => ∀ i quoted, f ≠ .emptyTerm i quoted)
        (countedParse .unit aboutExpression (evaluate o text) >>= realize) :=
      ((failsOnly_evaluate (fun _ => nofun) o hterm).countedParse _ _).bind failsOnly_realize
    constructor
    · rintro ⟨t, ht⟩
      exact absurd rfl (hfails s _ t ht i quoted)
    · rintro ⟨-, -, _, ⟨⟩, -⟩

/-- Which empty term is reported, and with which offset. Reading a text fails over an empty term
exactly if the text is not empty and has an empty term between its parentheses. The fault carries
the text as it was given, and as offset the number of characters that the condensed text has in
front of the first empty term. In the text itself this term stands at a position that is never in
front of the offset. It is the offset exactly if no parenthesis and no repeated operator is left out
in front of the term. -/
theorem offset_of_emptyTerm (s : Session) (o : Option Nat) (text quoted : String) (i : Nat) :
    ((∃ t, (parseUnit o text).run s = .error (.emptyTerm i quoted) t) ↔
      text ≠ "" ∧ quoted = text ∧ ∃ before rest, FirstEmpty (body text) before rest ∧
        i = (squeeze before).length) ∧
    ∀ before rest, FirstEmpty (body text) before rest →
      EmptyAt text (position text before) ∧
      (squeeze before).length ≤ position text before ∧
      ((squeeze before).length = position text before ↔
        opening text = [] ∧ squeeze before = before) := by
  constructor
  · rw [exists_emptyTerm_iff]
    refine and_congr_right fun _ => and_congr_right fun _ => ⟨?_, ?_⟩
    · rintro ⟨term, hterm, rfl⟩
      exact exists_firstEmpty hterm
    · rintro ⟨before, rest, h, rfl⟩
      exact h.emptyTerm?
  · intro before rest h
    have hle := length_squeeze_le before
    refine ⟨h.emptyAt, hle.trans (Nat.le_add_left _ _), ?_⟩
    constructor
    · intro heq
      rw [position] at heq
      exact ⟨List.eq_nil_of_length_eq_zero (by omega), eq_of_length_squeeze (by omega)⟩
    · rintro ⟨hopening, hsqueeze⟩
      rw [position, hopening, hsqueeze, List.length_nil, Nat.zero_add]

/-- The offset need not point at an empty term of the text: the parenthesis in front of `(m/)` is
not counted, and at offset 2 there stands the operator in front of the empty term. -/
theorem exists_offset_not_emptyAt :
    ¬∀ (s : Session) (o : Option Nat) (text quoted : String) (i : Nat) (t : Session),
      (parseUnit o text).run s = .error (.emptyTerm i quoted) t →
        quoted = text ∧ EmptyAt text i := by
  intro hall
  obtain ⟨t, ht⟩ := (exists_emptyTerm_iff (s := start true []) (o := none)).2
    ⟨by decide, rfl, ⟨[], 2⟩, (by decide : (Expression.ofText "(m/)").emptyTerm? = _), rfl⟩
  have htake : "(m/)".toList.take 2 = ['(', 'm'] := by decide
  have hbegins := (hall _ _ _ _ _ _ ht).2.begins
  rw [htake] at hbegins
  rcases hbegins with h | h | ⟨c, h, hc⟩
  · cases h
  · cases h
  · cases h
    cases hc

/-- In `m//*s`, the repeated operator is not counted. -/
example : (Expression.ofText "m//*s").emptyTerm? = some ⟨[], 2⟩ := by decide

end Session

end Metrology
