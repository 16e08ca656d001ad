import Metrology.Proofs.Expression.Chain
import Metrology.Proofs.Expression.Reading

/-!
# Symbols that are read back

An *atom* is a registered unit raised to powers in turn. A registry *spells* an atom when the symbol
of its unit stands for nothing else and none of its powers has a meaning of its own. A chain of
words, finite numbers and atoms that are spelled in this way, is read as exactly what its words make
(`run_parseUnit_text`): the text falls apart into the words, each is looked up as what it is, and
joining them from left to right is all that reading does.
-/

namespace Metrology

open Session Text

/-- An exponent that can be written as a numeral. -/
abbrev Exponent := { n : Int // isWritable n = true }

/-- The exponent of a square. -/
def Exponent.two : Exponent :=
  ⟨2, by decide +kernel⟩

/-- A unit raised to powers in turn. -/
inductive Atom where
  | unit (m : Measure)
  | power (a : Atom) (n : Exponent)

namespace Atom

/-- The unit that is raised. -/
def base : Atom → Measure
  | unit m => m
  | power a _ => a.base

/-- The symbol of the unit with the exponents behind it. -/
def text : Atom → List Char
  | unit m => m.symbol.toList
  | power a n => raised n a.text

/-- The unit that raising makes. -/
def derived : Atom → Derived
  | unit m => .known m
  | power a n => .fresh (a.derived.denomination.pow n)

/-- A power of a unit with a plain symbol is written as plain text. -/
theorem plain_text {a : Atom} (h : Plain a.base.symbol.toList) : Plain a.text := by
  induction a with
  | unit m => exact h
  | power a n ih => exact (ih h).raised n

end Atom

/-- A number or an atom. -/
inductive Word where
  | number (x : Float)
  | atom (a : Atom)

namespace Word

/-- How a word is written. -/
def text : Word → List Char
  | number x => (Numeral.plainText x).toList
  | atom a => a.text

/-- What a word is read as. -/
def operand : Word → Operand
  | number x => .number (Numeral.reread x)
  | atom a => .unit a.derived

end Word

/-- The unit that a chain of operands makes. -/
def Chain.evaluate (c : Chain Operand) : Derived :=
  Operand.evaluate c.head c.tail

/-- The symbol of the unit stands for it and for nothing else, and no power of it has a meaning of
its own: neither is a name or a symbol, and no resolver answers to it. -/
inductive Registry.Spells (r : Registry) : Atom → Prop
  | unit {m : Measure} (hplain : Plain m.symbol.toList)
      (hliteral : Numeral.literal? m.symbol.toList = none)
      (hsymbol : r.bySymbol.get? m.symbol = some m)
      (hname : ∀ u, r.byName.get? m.symbol = some u → u = m)
      (hpass : ∀ b ∈ r.resolvers, b.reply m.symbol = .pass) : Spells r (.unit m)
  | power {a : Atom} {n : Exponent} (ha : r.Spells a) (hnew : r.known? (raised n a.text) = none)
      (hpass : ∀ b ∈ r.resolvers, b.reply (String.ofList (raised n a.text)) = .pass) :
      Spells r (.power a n)

/-- The registry reads the word: it is a finite number, or an atom that the registry spells. -/
inductive Registry.Reads (r : Registry) : Word → Prop
  | number {x : Float} (h : Numeral.isFinite x = true) : Reads r (.number x)
  | atom {a : Atom} (h : r.Spells a) : Reads r (.atom a)

namespace Registry

variable {r : Registry} {a : Atom} {w : Word}

theorem Spells.plain_base (h : r.Spells a) : Plain a.base.symbol.toList := by
  induction h with
  | unit hplain => exact hplain
  | power _ _ _ ih => exact ih

theorem Spells.plain (h : r.Spells a) : Plain a.text :=
  Atom.plain_text h.plain_base

/-- A caret stands in no literal. -/
theorem Spells.literal?_eq_none (h : r.Spells a) : Numeral.literal? a.text = none := by
  cases h with
  | unit _ hliteral => exact hliteral
  | power _ _ _ =>
    exact Numeral.literal?_eq_none (c := '^') (by simp [Atom.text, raised]) (by decide)

/-- What a registry reads back is written as plain text. -/
theorem Reads.plain (h : r.Reads w) : Plain w.text := by
  cases h with
  | number h =>
    obtain ⟨l, hl⟩ := Numeral.exists_literal?_plainText h
    exact plain_of_literal? hl
  | atom h => exact h.plain

/-- Words that the registry reads back are plain pieces. -/
theorem forall_plain {c : Chain Word} (h : ∀ w ∈ c.items, r.Reads w) :
    ∀ p ∈ (c.map Word.text).items, Plain p := by
  intro p hp
  rw [Chain.items_map] at hp
  obtain ⟨w, hw, rfl⟩ := List.mem_map.1 hp
  exact (h w hw).plain

end Registry

/-- The caret of a power is the last one. -/
theorem suffixed_raised (n : Exponent) {p : List Char} (h : p ≠ []) :
    Expression.Suffixed p n (raised n p) := by
  refine ⟨(toString n.val).toList, rfl, fun hc => ?_, h, whole?_toString n.property⟩
  have hfigure := isFigure_of_mem_toString hc
  revert hfigure
  decide

namespace Session

open Expression

variable {o : Option Nat} {id : Nat} {r : Registry} {s t : Session}

/-- Where a registry is meant, it is this one. -/
structure Addresses (s : Session) (o : Option Nat) (id : Nat) (r : Registry) : Prop where
  meant : o = some id ∨ o = none ∧ s.standing = some id
  held : s.registries[id]? = some r

theorem Addresses.registryAt (h : s.Addresses o id r) : s.registryAt id = r :=
  registryAt_of_getElem? h.held

/-- An operation beside the registries leaves the addressed registry what it is. -/
theorem Addresses.later (h : s.Addresses o id r) (ht : s.Beside t) : t.Addresses o id r := by
  refine ⟨?_, ?_⟩
  · rw [ht.standing]
    exact h.meant
  · rw [ht.registries]
    exact h.held

/-- An atom that is spelled stands for the unit that raising makes. -/
theorem run_resolveTerm_text {a : Atom} (ha : r.Spells a) (hr : s.registryAt id = r) :
    ∃ t, (resolveTerm id a.text).run s = .ok a.derived t ∧ s.Beside t := by
  induction ha generalizing s with
  | @unit m hplain hliteral hsymbol hname hpass =>
    -- by name or by symbol, the registry has this unit and no other
    have hknown : r.known? m.symbol.toList = some m := by
      rw [Registry.known?, String.ofList_toList, hsymbol]
      cases hget : r.byName.get? m.symbol with
      | none => rfl
      | some u =>
        rw [hname u hget]
        rfl
    have hsettles : r.Settles (String.ofList m.symbol.toList) :=
      .inr (by rwa [String.ofList_toList])
    obtain ⟨t, ht, hst⟩ := run_tryTerm_of_settles hr hsettles
    rw [hknown] at ht
    rw [Atom.text, resolveTerm]
    exact ⟨t, run_bind_of_ok ht _, hst⟩
  | @power a n ha hnew hpass ih =>
    obtain ⟨t, ht, hst⟩ := run_tryTerm_of_settles hr (.inr hpass)
    rw [hnew] at ht
    obtain ⟨u, hu, htu⟩ := ih ((registryAt_congr hst.registries id).trans hr)
    -- the text as a whole is unknown, so its power is taken off
    have hsuffix := powerSuffix?_eq_some_iff.2 (suffixed_raised n ha.plain.ne_nil)
    refine ⟨u, ?_, hst.trans htu⟩
    rw [Atom.text, resolveTerm, run_bind_of_ok ht]
    dsimp only
    split
    · rename_i base k hp
      rw [hsuffix] at hp
      cases hp
      rw [run_bind_of_ok hu]
      rfl
    · rename_i hp
      rw [hsuffix] at hp
      cases hp

/-- A word is looked up as what it is. -/
theorem run_operand_text (hs : s.Addresses o id r) {w : Word} (hw : r.Reads w) {term : Term}
    (ht : term.text = w.text) :
    ∃ t, (operand o term).run s = .ok w.operand t ∧ s.Beside t := by
  unfold operand
  rw [ht]
  cases hw with
  | @number x h =>
    obtain ⟨l, hl⟩ := Numeral.exists_literal?_plainText h
    refine ⟨s, ?_, .refl s⟩
    rw [show (Word.number x).text = (Numeral.plainText x).toList from rfl, hl, Word.operand,
      Numeral.reread_of_literal? hl]
    rfl
  | @atom a h =>
    obtain ⟨t, ht, hst⟩ := run_resolveTerm_text h hs.registryAt
    rw [show (Word.atom a).text = a.text from rfl, h.literal?_eq_none]
    dsimp only
    rw [run_bind_of_ok (run_registryOr hs.meant), run_map, ht]
    exact ⟨t, rfl, hst⟩

/-- Words are read one after another. -/
theorem run_operands_text (hs : s.Addresses o id r) {steps : List (Join × Term)}
    {words : List (Join × Word)} (hw : ∀ step ∈ words, r.Reads step.2)
    (h : steps.map (fun step => (step.1, step.2.text)) =
      words.map fun step => (step.1, step.2.text)) :
    ∃ t, (steps.mapM fun (join, term) => do pure (join, ← operand o term) : SessionM _).run s =
      .ok (words.map fun step => (step.1, step.2.operand)) t ∧ s.Beside t := by
  induction words generalizing s steps with
  | nil =>
    obtain rfl := List.map_eq_nil_iff.1 h
    exact ⟨s, rfl, .refl s⟩
  | cons word words ih =>
    obtain ⟨step, steps, rfl, hstep, hsteps⟩ := List.map_eq_cons_iff.1 h
    obtain ⟨join, term⟩ := step
    obtain ⟨rfl, hterm⟩ := Prod.mk.inj hstep
    obtain ⟨t, ht, hst⟩ := run_operand_text hs (hw word List.mem_cons_self) hterm
    obtain ⟨u, hu, htu⟩ :=
      ih (hs.later hst) (fun w hmem => hw w (List.mem_cons_of_mem _ hmem)) hsteps
    refine ⟨u, ?_, hst.trans htu⟩
    rw [List.mapM_cons, bind_assoc, run_bind_of_ok ht, pure_bind, run_bind_of_ok hu]
    rfl

end Session

/-- The terms of the text of a chain are its pieces, with its joins. -/
theorem Chain.ofText_text {c : Chain (List Char)} (h : ∀ p ∈ c.items, Plain p) :
    (Expression.ofText (String.ofList c.text)).head.text = c.head ∧
    (Expression.ofText (String.ofList c.text)).tail.map (fun step => (step.1, step.2.text)) =
      c.tail := by
  have htexts := Expression.texts_ofText (String.ofList c.text)
  have hjoins := Expression.joins_ofText (String.ofList c.text)
  rw [pieces_text h, items_eq, Expression.terms, List.map_cons] at htexts
  rw [operators_text h, joins_eq] at hjoins
  obtain ⟨hhead, htail⟩ := List.cons.inj htexts
  refine ⟨hhead, ?_⟩
  -- the steps are their joins and pieces put together again
  calc
    _ = (c.tail.map (·.1)).zip (c.tail.map (·.2)) := by
      refine List.zip_of_prod ?_ ?_
      · rw [List.map_map, ← hjoins]
        rfl
      · rw [List.map_map, ← htail, List.map_map]
        rfl
    _ = c.tail := (List.zip_of_prod rfl rfl).symm

namespace Session

variable {o : Option Nat} {id : Nat} {r : Registry} {s : Session}

/-- A chain of words is read as what its words make. -/
theorem run_evaluate_text (hs : s.Addresses o id r) {c : Chain Word}
    (hc : ∀ w ∈ c.items, r.Reads w) :
    ∃ t, (evaluate o (String.ofList (c.map Word.text).text)).run s =
      .ok (c.map Word.operand).evaluate t ∧ s.Beside t := by
  have hplain := Registry.forall_plain hc
  obtain ⟨hhead, htail⟩ := Chain.ofText_text hplain
  rw [Chain.head_map] at hhead
  rw [Chain.tail_map] at htail
  -- no piece is empty, so the terms are looked up one after another
  have hvacant : (Expression.ofText (String.ofList (c.map Word.text).text)).emptyTerm? = none := by
    rw [Expression.emptyTerm?_eq_none_iff, Chain.pieces_text hplain]
    exact fun p hp => (hplain p hp).isVacant
  rw [Chain.items_eq] at hc
  obtain ⟨t, ht, hst⟩ := run_operand_text hs (hc c.head List.mem_cons_self) hhead
  obtain ⟨u, hu, htu⟩ := run_operands_text (hs.later hst)
    (fun step hstep => hc step.2 (List.mem_cons_of_mem _ (List.mem_map_of_mem hstep))) htail
  refine ⟨u, ?_, hst.trans htu⟩
  unfold evaluate
  dsimp only
  rw [hvacant]
  refine (run_bind_of_ok ht _).trans ((run_bind_of_ok hu _).trans ?_)
  rw [Chain.evaluate, Chain.head_map, Chain.tail_map]
  rfl

/-- The text of a chain of words is read as the unit that the words make. -/
theorem run_parseUnit_text (hs : s.Addresses o id r) {c : Chain Word}
    (hc : ∀ w ∈ c.items, r.Reads w) :
    ∃ m t, (parseUnit o (String.ofList (c.map Word.text).text)).run s = .ok m t ∧
      m.toDenomination = (c.map Word.operand).evaluate.denomination ∧ s.Beside t := by
  have htext : String.ofList (c.map Word.text).text ≠ "" := by
    intro hempty
    have hnil := congrArg String.toList hempty
    rw [String.toList_ofList] at hnil
    exact Chain.text_ne_nil (Registry.forall_plain hc) hnil
  obtain ⟨t, ht, hst⟩ := run_evaluate_text hs hc
  have hparsed := run_countedParse_of_ok ht .unit aboutExpression
  obtain ⟨m, u, hm, hdenomination, htu⟩ := run_realize_beside (c.map Word.operand).evaluate
    (after (count (.parse .unit true)) t)
  rw [parseUnit_of_ne htext]
  exact ⟨m, u, (run_bind_of_ok hparsed realize).trans hm, hdenomination,
    (hst.trans (beside_count _ t)).trans htu⟩

/-- A symbol that lists words is read as the unit that they make. -/
theorem run_parseUnit_symbol (hs : s.Addresses o id r) {c : Chain Word}
    (hc : ∀ w ∈ c.items, r.Reads w) {d : Denomination} (hd : d.Spelled (c.map Word.text)) :
    ∃ m t, (parseUnit o d.symbol).run s = .ok m t ∧
      m.toDenomination = (c.map Word.operand).evaluate.denomination ∧ s.Beside t := by
  rw [hd.symbol]
  exact run_parseUnit_text hs hc

end Session

/-- Wherever the registry is meant, the symbol of the unit is read as a unit with the same name,
symbol, factor and dimension, declared or not like this one, and nothing is registered. -/
def Registry.ReadsBack (r : Registry) (d : Denomination) : Prop :=
  ∀ (s : Session) (o : Option Nat) (id : Nat), s.Addresses o id r →
    ∃ m t, (parseUnit o d.symbol).run s = .ok m t ∧ m.toDenomination = d ∧
      t.registries = s.registries

/-- A unit is read back where its symbol lists the words that make it. -/
theorem Registry.readsBack_of_spelled {r : Registry} {c : Chain Word}
    (hc : ∀ w ∈ c.items, r.Reads w)
    (hs : (c.map Word.operand).evaluate.denomination.Spelled (c.map Word.text)) :
    r.ReadsBack (c.map Word.operand).evaluate.denomination := by
  intro s o id h
  obtain ⟨m, t, hm, hdenomination, hst⟩ := run_parseUnit_symbol h hc hs
  exact ⟨m, t, hm, hdenomination, hst.registries⟩

end Metrology
