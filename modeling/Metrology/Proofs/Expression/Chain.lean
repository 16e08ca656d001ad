import Metrology.Proofs.Expression.Terms
import Metrology.Proofs.Numeral.Literal

/-!
# Chains

What `*` and `/` join is a chain. A chain of pieces is laid out as a text, and where the pieces are
*plain* the text falls apart into just these pieces and their joins again (`pieces_text`,
`operators_text`): plain pieces are not vacant, hold no operator, and stand at the ends of a text
without a parenthesis there. The symbols that algebra makes are laid out in this way, and nothing is
squeezed out of them (`Spelled`).
-/

namespace Metrology

open Text

/-- The operator of a join. -/
def Join.char : Join → Char
  | .times => '*'
  | .per => '/'

theorem Join.ofChar?_char (join : Join) : Join.ofChar? join.char = some join := by
  cases join <;> rfl

theorem Join.isOperator_char (join : Join) : Join.isOperator join.char = true := by
  cases join <;> rfl

/-- One or more things with joins between neighbours. -/
inductive Chain (α : Type) where
  | one (a : α)
  | cons (a : α) (join : Join) (rest : Chain α)

namespace Chain

variable {α β : Type}

/-- The first one. -/
def head : Chain α → α
  | one a => a
  | cons a _ _ => a

/-- The others, each with the join before it. -/
def tail : Chain α → List (Join × α)
  | one _ => []
  | cons _ join rest => (join, rest.head) :: rest.tail

/-- All of them in order. -/
def items : Chain α → List α
  | one a => [a]
  | cons a _ rest => a :: rest.items

/-- All of them in order, each with the join before it; before the first one there is none, which
counts as a multiplication. -/
def signed (c : Chain α) : List (Join × α) :=
  (.times, c.head) :: c.tail

/-- The joins in order. -/
def joins : Chain α → List Join
  | one _ => []
  | cons _ join rest => join :: rest.joins

/-- The chain of the images. -/
def map (f : α → β) : Chain α → Chain β
  | one a => one (f a)
  | cons a join rest => cons (f a) join (rest.map f)

/-- Two chains joined. -/
def append : Chain α → Join → Chain α → Chain α
  | one a, join, d => cons a join d
  | cons a i rest, join, d => cons a i (rest.append join d)

/-- The chain with its last one changed. -/
def changeLast (f : α → α) : Chain α → Chain α
  | one a => one (f a)
  | cons a join rest => cons a join (rest.changeLast f)

/-- The pieces one after another, with the operators between them. -/
def text : Chain (List Char) → List Char
  | one p => p
  | cons p join rest => p ++ join.char :: rest.text

/-! ## Parts -/

/-- The items are the first one and what stands behind the joins. -/
theorem items_eq (c : Chain α) : c.items = c.head :: c.tail.map (·.2) := by
  induction c with
  | one a => rfl
  | cons a join rest ih => rw [items, ih, head, tail, List.map_cons]

/-- The joins are those that stand before the other items. -/
theorem joins_eq (c : Chain α) : c.joins = c.tail.map (·.1) := by
  induction c with
  | one a => rfl
  | cons a join rest ih => rw [joins, ih, tail, List.map_cons]

theorem head_map (f : α → β) (c : Chain α) : (c.map f).head = f c.head := by
  cases c <;> rfl

/-- The images stand in the same order. -/
theorem items_map (f : α → β) (c : Chain α) : (c.map f).items = c.items.map f := by
  induction c with
  | one a => rfl
  | cons a join rest ih => rw [map, items, ih, items, List.map_cons]

/-- A map leaves the joins as they are. -/
theorem tail_map (f : α → β) (c : Chain α) :
    (c.map f).tail = c.tail.map fun step => (step.1, f step.2) := by
  induction c with
  | one a => rfl
  | cons a join rest ih => rw [map, tail, ih, head_map, tail, List.map_cons]

theorem map_map {γ : Type} (f : α → β) (g : β → γ) (c : Chain α) :
    (c.map f).map g = c.map fun a => g (f a) := by
  induction c with
  | one a => rfl
  | cons a join rest ih => rw [map, map, ih, map]

/-- What is appended does not change the first item. -/
theorem head_append (c : Chain α) (join : Join) (d : Chain α) :
    (c.append join d).head = c.head := by
  cases c <;> rfl

/-- Behind an append, the join stands before the first item of the second chain. -/
theorem tail_append (c : Chain α) (join : Join) (d : Chain α) :
    (c.append join d).tail = c.tail ++ (join, d.head) :: d.tail := by
  induction c with
  | one a => rfl
  | cons a i rest ih => rw [append, tail, ih, head_append, tail, List.cons_append]

/-- No item is lost in an append. -/
theorem items_append (c : Chain α) (join : Join) (d : Chain α) :
    (c.append join d).items = c.items ++ d.items := by
  induction c with
  | one a => rfl
  | cons a i rest ih => rw [append, items, ih, items, List.cons_append]

/-- A map leaves the joins as they are, the one that the first item counts with included. -/
theorem signed_map (f : α → β) (c : Chain α) :
    (c.map f).signed = c.signed.map fun step => (step.1, f step.2) := by
  rw [signed, head_map, tail_map, signed, List.map_cons]

theorem signed_cons_times (a : α) (c : Chain α) :
    (cons a .times c).signed = (.times, a) :: c.signed :=
  rfl

/-- The first item of an appended chain gets the join between the two chains. -/
theorem signed_append (c : Chain α) (join : Join) (d : Chain α) :
    (c.append join d).signed = c.signed ++ (join, d.head) :: d.tail := by
  rw [signed, head_append, tail_append, signed, List.cons_append]

theorem items_eq_signed (c : Chain α) : c.items = c.signed.map (·.2) :=
  c.items_eq

/-- It does not matter in which order chains are appended. -/
theorem append_assoc (c : Chain α) (i : Join) (d : Chain α) (join : Join) (e : Chain α) :
    (c.append i d).append join e = c.append i (d.append join e) := by
  induction c with
  | one a => rfl
  | cons a k rest ih => rw [append, append, ih, append]

/-- Appending goes with a map. -/
theorem map_append (f : α → β) (c : Chain α) (join : Join) (d : Chain α) :
    (c.append join d).map f = (c.map f).append join (d.map f) := by
  induction c with
  | one a => rfl
  | cons a i rest ih => rw [append, map, ih, map, append]

/-- Changing the last item goes with a map that is taken along. -/
theorem map_changeLast {f : α → β} {g : α → α} {k : β → β} (h : ∀ a, f (g a) = k (f a))
    (c : Chain α) : (c.changeLast g).map f = (c.map f).changeLast k := by
  induction c with
  | one a => exact congrArg one (h a)
  | cons a join rest ih => rw [changeLast, map, ih, map, changeLast]

/-- Changing the last one keeps what holds of all. -/
theorem forall_items_changeLast {P : α → Prop} {f : α → α} (hf : ∀ a, P a → P (f a)) {c : Chain α}
    (h : ∀ a ∈ c.items, P a) : ∀ a ∈ (c.changeLast f).items, P a := by
  induction c with
  | one a => simpa [changeLast, items] using hf a (h a (by simp [items]))
  | cons a join rest ih =>
    intro b hb
    rcases List.mem_cons.1 hb with rfl | hb
    · exact h b (by simp [items])
    · exact ih (fun d hd => h d (by simp [items, hd])) b hb

/-! ## Texts -/

/-- The text of two joined chains has the operator of the join between their texts. -/
theorem text_append (c : Chain (List Char)) (join : Join) (d : Chain (List Char)) :
    (c.append join d).text = c.text ++ join.char :: d.text := by
  induction c with
  | one p => rfl
  | cons p i rest ih => rw [append, text, ih, text, List.append_assoc, List.cons_append]

/-- What is put behind the last piece stands behind the whole text. -/
theorem text_changeLast (t : List Char) (c : Chain (List Char)) :
    (c.changeLast (· ++ t)).text = c.text ++ t := by
  induction c with
  | one p => rfl
  | cons p join rest ih => rw [changeLast, text, ih, text, List.append_assoc, List.cons_append]

end Chain

/-- A piece that is read from a text as it was written. -/
structure Plain (p : List Char) : Prop where
  isVacant : isVacant p = false
  isOperator : ∀ c ∈ p, Join.isOperator c = false
  opening : p.head? ≠ some '('
  closing : p.getLast? ≠ some ')'

/-- A piece is plain by what can be computed of it. -/
instance (p : List Char) : Decidable (Plain p) :=
  decidable_of_iff (isVacant p = false ∧ p.any Join.isOperator = false ∧
      p.head? ≠ some '(' ∧ p.getLast? ≠ some ')')
    ⟨fun ⟨hvacant, hoperator, hopening, hclosing⟩ =>
      ⟨hvacant, by simpa using hoperator, hopening, hclosing⟩,
     fun ⟨hvacant, hoperator, hopening, hclosing⟩ =>
      ⟨hvacant, by simpa using hoperator, hopening, hclosing⟩⟩

/-- Plain text is not empty. -/
theorem Plain.ne_nil {p : List Char} (h : Plain p) : p ≠ [] := by
  rintro rfl
  exact absurd h.isVacant (by decide)

namespace Chain

variable {c d : Chain (List Char)}

/-- A chain of plain pieces has a text. -/
theorem text_ne_nil (h : ∀ p ∈ c.items, Plain p) : c.text ≠ [] := by
  cases c with
  | one p => exact (h p (by simp [items])).ne_nil
  | cons p join rest => simp [text]

/-- A chain of plain pieces begins as its first piece does. -/
theorem head?_text (h : ∀ p ∈ c.items, Plain p) : c.text.head? = c.head.head? := by
  cases c with
  | one p => rfl
  | cons p join rest =>
    exact List.head?_append_of_ne_nil _ (h p (by simp [items])).ne_nil

theorem plain_head (h : ∀ p ∈ c.items, Plain p) : Plain c.head :=
  h c.head (by rw [items_eq]; exact List.mem_cons_self)

/-- No parenthesis stands at the end of the text. -/
theorem getLast?_text (h : ∀ p ∈ c.items, Plain p) : c.text.getLast? ≠ some ')' := by
  induction c with
  | one p => exact (h p (by simp [items])).closing
  | cons p join rest ih =>
    have hrest : ∀ q ∈ rest.items, Plain q := fun q hq => h q (by simp [items, hq])
    rw [text, List.getLast?_append_of_ne_nil _ (by simp),
      List.getLast?_cons_of_ne_nil (text_ne_nil hrest)]
    exact ih hrest

/-- No operator is repeated: of two neighbours at most one is an operator. -/
theorem isChain_text (h : ∀ p ∈ c.items, Plain p) : c.text.IsChain Join.Distinct := by
  have hpiece : ∀ p, Plain p → p.IsChain Join.Distinct := fun p hp =>
    (List.pairwise_of_forall_mem_list fun c hc _ _ hd => by simp [hp.isOperator c hc] at hd).isChain
  induction c with
  | one p => exact hpiece p (h p (by simp [items]))
  | cons p join rest ih =>
    have hp := h p (by simp [items])
    have hrest : ∀ q ∈ rest.items, Plain q := fun q hq => h q (by simp [items, hq])
    -- only the join between two pieces is an operator, and its neighbours are none
    refine (hpiece p hp).append ((ih hrest).cons ?_) ?_
    · rw [head?_text hrest]
      rintro c hc ⟨rfl, hop⟩
      rw [(plain_head hrest).isOperator _ (List.mem_of_head? hc)] at hop
      cases hop
    · rintro c hc d - ⟨-, hop⟩
      rw [hp.isOperator c (List.mem_of_getLast? hc)] at hop
      cases hop

/-- Plain pieces hold no blanks that reading would remove. -/
theorem condensed_text (h : ∀ p ∈ c.items, Plain p) :
    Expression.condensed (String.ofList c.text) = c.text := by
  have hopening : c.text.head? ≠ some '(' := by
    rw [head?_text h]
    exact (plain_head h).opening
  rw [Expression.condensed, String.toList_ofList, Expression.withoutOpening, if_neg hopening,
    Expression.withoutClosing, if_neg (getLast?_text h),
    List.destutter_of_isChain _ _ (isChain_text h)]

/-- Between plain pieces no operator stands twice, so there is nothing to shorten. -/
theorem squeezed_text (h : ∀ p ∈ c.items, Plain p) :
    squeezed (String.ofList c.text) = String.ofList c.text := by
  rw [squeezed, String.toList_ofList, squeeze_eq_destutter,
    List.destutter_of_isChain _ _ (isChain_text h)]

/-- The text of a chain falls apart into its pieces. -/
theorem pieces_text (h : ∀ p ∈ c.items, Plain p) :
    Expression.pieces (String.ofList c.text) = c.items := by
  rw [Expression.pieces, condensed_text h]
  induction c with
  | one p => exact List.splitOnP_eq_singleton (h p (by simp [items])).isOperator
  | cons p join rest ih =>
    rw [text, List.splitOnP_append_cons_of_forall_mem (h p (by simp [items])).isOperator _
      join.isOperator_char, ih fun q hq => h q (by simp [items, hq]), items]

/-- The operators in the text of a chain are its joins. -/
theorem operators_text (h : ∀ p ∈ c.items, Plain p) :
    Expression.operators (String.ofList c.text) = c.joins := by
  have hpiece : ∀ p, Plain p → p.filterMap Join.ofChar? = [] := by
    intro p hp
    rw [List.filterMap_eq_nil_iff]
    intro c hc
    have hop := hp.isOperator c hc
    rw [Expression.isOperator_eq_isSome] at hop
    exact Option.isSome_eq_false_iff.1 hop |> Option.isNone_iff_eq_none.1
  rw [Expression.operators, condensed_text h]
  induction c with
  | one p => exact hpiece p (h p (by simp [items]))
  | cons p join rest ih =>
    rw [text, List.filterMap_append, hpiece p (h p (by simp [items])), List.nil_append,
      List.filterMap_cons, join.ofChar?_char, ih fun q hq => h q (by simp [items, hq]), joins]

end Chain

/-! ## Symbols -/

/-- The symbol of a unit is the text of a chain of plain pieces. -/
structure Denomination.Spelled (m : Denomination) (c : Chain (List Char)) : Prop where
  symbol : m.symbol = String.ofList c.text
  plain : ∀ p ∈ c.items, Plain p

/-- The piece of a power: the base, a caret and the exponent. -/
def raised (n : Int) (p : List Char) : List Char :=
  p ++ '^' :: (toString n).toList

/-- A character of a literal is no operator, no parenthesis and no white space. -/
theorem plain_of_isFigure {c : Char} (h : Numeral.isFigure c = true) :
    Join.isOperator c = false ∧ c ≠ '(' ∧ c ≠ ')' ∧ isSpace c = false := by
  have hne : ∀ d, Numeral.isFigure d = false → c ≠ d := by
    rintro d hd rfl
    rw [h] at hd
    cases hd
  refine ⟨?_, hne '(' (by decide), hne ')' (by decide), ?_⟩
  · rw [Join.isOperator, decide_eq_false (hne '*' (by decide)),
      decide_eq_false (hne '/' (by decide))]
    rfl
  · rcases Bool.or_eq_true_iff.1 h with hd | hd
    · exact isSpace_of_isDigit hd
    · have hall : (['+', '-', '.', 'e', 'E'].all fun d => !isSpace d) = true := by decide
      simpa using List.all_eq_true.1 hall c (List.contains_iff_mem.1 hd)

/-- A whole number is written with figures, its sign among them. -/
theorem isFigure_of_mem_toString {n : Int} {c : Char} (h : c ∈ (toString n).toList) :
    Numeral.isFigure c = true := by
  rcases mem_toString h with rfl | hd
  · decide
  · exact Numeral.isFigure_of_isDigit (isDigit_of_isDigit hd)

/-- Literals are plain. -/
theorem plain_of_literal? {s : List Char} {l : Numeral.Literal}
    (h : Numeral.literal? s = some l) : Plain s := by
  have hplain := fun c hc => plain_of_isFigure (Numeral.isFigure_of_literal? h c hc)
  refine ⟨?_, fun c hc => (hplain c hc).1, fun hc => (hplain _ (List.mem_of_head? hc)).2.1 rfl,
    fun hc => (hplain _ (List.mem_of_getLast? hc)).2.2.1 rfl⟩
  cases s with
  | nil => cases h
  | cons c s => rw [isVacant, List.all_cons, (hplain c (by simp)).2.2.2, Bool.false_and]

/-- A power of plain text is plain text. -/
theorem Plain.raised {p : List Char} (h : Plain p) (n : Int) : Plain (raised n p) := by
  refine ⟨?_, fun c hc => ?_, ?_, ?_⟩
  · have hp := h.isVacant
    rw [Text.isVacant] at hp
    rw [Text.isVacant, Metrology.raised, List.all_append, hp, Bool.false_and]
  · rcases List.mem_append.1 hc with hc | hc
    · exact h.isOperator c hc
    · rcases List.mem_cons.1 hc with rfl | hc
      · rfl
      · exact (plain_of_isFigure (isFigure_of_mem_toString hc)).1
  · rw [Metrology.raised, List.head?_append_of_ne_nil _ h.ne_nil]
    exact h.opening
  · -- what stands last is part of the exponent, which is not empty
    rw [Metrology.raised, List.getLast?_append_of_ne_nil _ (by simp)]
    intro hlast
    rcases List.mem_cons.1 (List.mem_of_getLast? hlast) with hc | hc
    · cases hc
    · exact (plain_of_isFigure (isFigure_of_mem_toString hc)).2.2.1 rfl

namespace Denomination.Spelled

variable {a b m : Denomination} {c d : Chain (List Char)}

/-- Where two chains are joined, the pieces are those of both. -/
theorem plain_append (h : ∀ p ∈ c.items, Plain p) (h' : ∀ p ∈ d.items, Plain p) (join : Join) :
    ∀ p ∈ (c.append join d).items, Plain p := by
  intro p hp
  rw [Chain.items_append] at hp
  rcases List.mem_append.1 hp with hp | hp
  · exact h p hp
  · exact h' p hp

/-- A derived unit spells out what its symbol spells out, since deriving cleans a text that is
clean. -/
theorem derive {symbol : String} (hs : symbol = String.ofList c.text)
    (h : ∀ p ∈ c.items, Plain p) (name : String) (factor : Float) (dimension : Dimension) :
    (Denomination.derive name symbol factor dimension).Spelled c := by
  refine ⟨?_, h⟩
  show squeezed symbol = _
  rw [hs, Chain.squeezed_text h]

/-- The product of two units spells out both symbols, joined by a multiplication. -/
theorem mul (ha : a.Spelled c) (hb : b.Spelled d) : (a.mul b).Spelled (c.append .times d) := by
  refine derive ?_ (plain_append ha.plain hb.plain .times) _ _ _
  show a.symbol ++ "*" ++ b.symbol = _
  rw [ha.symbol, hb.symbol, Chain.text_append]
  exact String.toList_injective (by simp [Join.char])

/-- The quotient of two units spells out both symbols, joined by a division. -/
theorem div (ha : a.Spelled c) (hb : b.Spelled d) : (a.div b).Spelled (c.append .per d) := by
  refine derive ?_ (plain_append ha.plain hb.plain .per) _ _ _
  show a.symbol ++ "/" ++ b.symbol = _
  rw [ha.symbol, hb.symbol, Chain.text_append]
  exact String.toList_injective (by simp [Join.char])

/-- A power raises the last piece only. -/
theorem pow (hm : m.Spelled c) (n : Int) : (m.pow n).Spelled (c.changeLast (raised n)) := by
  refine derive ?_ (Chain.forall_items_changeLast (fun p hp => hp.raised n) hm.plain) _ _ _
  show m.symbol ++ "^" ++ toString n = _
  rw [hm.symbol, show raised n = (· ++ '^' :: (toString n).toList) from rfl, Chain.text_changeLast]
  exact String.toList_injective (by simp)

/-- A multiple spells out its number in front. -/
theorem multiple (hm : m.Spelled c) {text : String} (ht : Plain text.toList) (scalar : Float) :
    (m.multiple text scalar).Spelled (.cons text.toList .times c) := by
  refine derive ?_ (plain_append (c := .one text.toList) ?_ hm.plain .times) _ _ _
  · show text ++ "*" ++ m.symbol = _
    rw [hm.symbol]
    exact String.toList_injective (by simp [Chain.append, Chain.text, Join.char])
  · simpa [Chain.items] using ht

/-- A fraction spells out its number behind, as a divisor. -/
theorem fraction (hm : m.Spelled c) {text : String} (ht : Plain text.toList) (scalar : Float) :
    (m.fraction text scalar).Spelled (c.append .per (.one text.toList)) := by
  refine derive ?_ (plain_append hm.plain ?_ .per) _ _ _
  · show m.symbol ++ "/" ++ text = _
    rw [hm.symbol, Chain.text_append, Chain.text]
    exact String.toList_injective (by simp [Join.char])
  · simpa [Chain.items] using ht

end Denomination.Spelled

end Metrology
