import Metrology.Proofs.Expression.Respelling
import Metrology.Proofs.Numeral.Notation
import Metrology.Proofs.Registry.Standard
import Metrology.Session.Standard

/-!
# Reading the symbol of what was read

A text that the standard registry reads is made of numbers and of powers of elementary units
(`exists_words`). The symbol of the unit lists these words in another order, and is read again
exactly where its numbers are finite and its words leave no gap in it (`parseUnit_again`). Then it
is read as what the operands make in that order: a unit of the same dimension, whose factor need not
be the same, since doubles do not associate (`not_forall_parseUnit_again`).
-/

namespace Metrology

open Session Text

/-! ## Pieces and words -/

namespace Expression

variable {name : String} {p : List Char}

/-- What a piece means in the standard registry is what a word stands for that can be written, and
that is read again where it is finite. -/
theorem exists_word {x : Operand} (h : Means (Registry.standard name) p x)
    (hop : ∀ c ∈ p, Join.isOperator c = false) : ∃ w : Word, w.value = x ∧ w.Legible ∧
      (x.isFinite = true → (Registry.standard name).Reads w) := by
  cases h with
  | @number l _ => exact ⟨.number l.toFloat, rfl, trivial, fun hfinite => .number hfinite⟩
  | unit _ hu =>
    obtain ⟨a, ha, rfl⟩ := Registry.exists_atom hu hop
    exact ⟨.atom a, rfl, ha.plain.1, fun _ => .atom (Registry.spells_standard ha)⟩

/-- What is meant is meant by a piece. -/
theorem exists_piece {r : Registry} {ps : List (List Char)} {xs : List Operand}
    (h : List.Forall₂ (Means r) ps xs) : ∀ x ∈ xs, ∃ p ∈ ps, Means r p x := by
  induction h with
  | nil => exact fun x hx => nomatch hx
  | @cons p x ps xs hmeans _ ih =>
    intro y hy
    rcases List.mem_cons.1 hy with rfl | hy
    · exact ⟨p, List.mem_cons_self, hmeans⟩
    · obtain ⟨q, hq, hmeans⟩ := ih y hy
      exact ⟨q, List.mem_cons_of_mem _ hq, hmeans⟩

/-- What is not finite is written as a word that means nothing. -/
theorem not_means_plainText {x : Float} (h : Numeral.isFinite x = false) (y : Operand) :
    ¬Means (Registry.standard name) (Numeral.plainText x).toList y := by
  -- three words are all that is written for such a number
  have hwords : ∀ text ∈ ["nan", "inf", "-inf"], Numeral.literal? text.toList = none ∧
      '^' ∉ text.toList ∧ ∀ m ∈ Catalog.allUnits, text ≠ m.name ∧ text ≠ m.symbol := by
    decide +kernel
  obtain ⟨hliteral, hcaret, hunits⟩ := hwords _ (plainText_of_not_isFinite h)
  intro hmeans
  cases hmeans with
  | number hl =>
    rw [hliteral] at hl
    cases hl
  | unit _ hstands =>
    cases hstands with
    | known hk =>
      obtain ⟨hm, hname | hsymbol⟩ := Registry.of_known? hk
      · exact (hunits _ hm).1 (String.toList_injective hname)
      · exact (hunits _ hm).2 (String.toList_injective hsymbol)
    | power _ hs _ =>
      obtain ⟨digits, hsplit, -⟩ := hs
      exact hcaret (hsplit ▸ by simp)

end Expression

namespace Operand

/-- Multiplying by what is not finite is written. -/
theorem moves_of_not_isFinite {step : Join × Operand} (h : step.2.isFinite = false)
    (hscales : scales step = true) : moves step = true := by
  obtain ⟨join, x⟩ := step
  cases join with
  | per => cases x <;> cases hscales
  | times =>
    cases x with
    | unit u => cases hscales
    | number x =>
      cases hone : x == 1.0 with
      | false => rw [moves, hone]; rfl
      | true =>
        have hfinite := Numeral.isFinite_of_beq (by decide +kernel) hone
        rw [show Numeral.isFinite x = false from h] at hfinite
        cases hfinite

end Operand

/-- A word that is no finite number stands in the symbol. -/
theorem Word.mem_rearranged_of_not_isFinite {head : Word} {steps : List (Join × Word)}
    {step : Join × Word} (hstep : step ∈ (Join.times, head) :: steps)
    (h : step.2.value.isFinite = false) : step ∈ rearranged head steps := by
  rw [rearranged, List.mem_append, List.mem_append, List.mem_reverse, List.mem_filter,
    List.mem_filter, List.mem_filter, List.mem_singleton]
  cases hscales : Operand.scales (meant step) with
  | false => exact .inr ⟨hstep, rfl⟩
  | true =>
    have hmoves : Operand.moves (meant step) = true :=
      Operand.moves_of_not_isFinite h hscales
    rcases List.mem_cons.1 hstep with rfl | hstep
    · exact .inl (.inl ⟨rfl, hmoves⟩)
    · exact .inl (.inr ⟨hstep, hmoves⟩)

/-- Operands that are what words stand for come from words. -/
theorem Word.exists_steps {P : Word → Prop} {tail : List (Join × Operand)}
    (h : ∀ step ∈ tail, ∃ w : Word, w.value = step.2 ∧ P w) :
    ∃ steps : List (Join × Word), steps.map meant = tail ∧ ∀ step ∈ steps, P step.2 := by
  induction tail with
  | nil => exact ⟨[], rfl, fun step hstep => nomatch hstep⟩
  | cons step tail ih =>
    obtain ⟨w, hw, hP⟩ := h step List.mem_cons_self
    obtain ⟨steps, rfl, hsteps⟩ := ih fun step hstep => h step (List.mem_cons_of_mem _ hstep)
    refine ⟨(step.1, w) :: steps, ?_, fun step hstep => ?_⟩
    · rw [List.map_cons, meant, hw]
    · rcases List.mem_cons.1 hstep with rfl | hstep
      · exact hP
      · exact hsteps step hstep

/-- What pieces of an expression mean comes from words, which tell how it is written. -/
theorem Expression.exists_words {name : String} {pieces : List (List Char)} {head : Operand}
    {tail : List (Join × Operand)}
    (hmeans : List.Forall₂ (Means (Registry.standard name)) pieces (head :: tail.map (·.2)))
    (hpieces : ∀ p ∈ pieces, ∀ c ∈ p, Join.isOperator c = false) :
    ∃ (w : Word) (steps : List (Join × Word)), head = w.value ∧ tail = steps.map Word.meant ∧
      ∀ step ∈ (Join.times, w) :: steps, step.2.Legible ∧
        (step.2.value.isFinite = true → (Registry.standard name).Reads step.2) := by
  have hmeant : ∀ x ∈ head :: tail.map (·.2), ∃ w : Word, w.value = x ∧ w.Legible ∧
      (w.value.isFinite = true → (Registry.standard name).Reads w) := fun x hx => by
    obtain ⟨p, hp, hx⟩ := exists_piece hmeans x hx
    obtain ⟨w, rfl, hw⟩ := exists_word hx (hpieces p hp)
    exact ⟨w, rfl, hw⟩
  obtain ⟨w, hvalue, hw⟩ := hmeant head List.mem_cons_self
  obtain ⟨steps, hmap, hsteps⟩ := Word.exists_steps fun step hstep =>
    hmeant step.2 (List.mem_cons_of_mem _ (List.mem_map_of_mem hstep))
  refine ⟨w, steps, hvalue.symm, hmap.symm, fun step hstep => ?_⟩
  rcases List.mem_cons.1 hstep with rfl | hstep
  · exact hw
  · exact hsteps step hstep

/-- A word that is finite where it is a number is read as what it stands for. -/
theorem Word.operand_eq_value {w : Word} (h : w.value.isFinite = true) : w.operand = w.value := by
  cases w with
  | number x => exact congrArg Operand.number (Numeral.reread_eq h)
  | atom a => rfl

namespace Session

variable {name : String} {o : Option Nat} {id : Nat} {r : Registry} {s t : Session}

/-! ## Reading twice -/

theorem Addresses.consults (h : s.Addresses o id r) (hresolvers : r.resolvers = []) :
    s.Consults o id r :=
  ⟨h.meant, h.registryAt, hresolvers⟩

/-- An expression that is read has no empty term, its pieces all mean something, and the unit is
what they make. -/
theorem of_run_parseUnit (h : s.Consults o id r) {text : String} (htext : text ≠ "") {m : Measure}
    (hm : (parseUnit o text).run s = .ok m t) :
    s.Beside t ∧ (∀ p ∈ Expression.pieces text, isVacant p = false) ∧ ∃ head tail,
      tail.map (·.1) = Expression.operators text ∧
      List.Forall₂ (Expression.Means r) (Expression.pieces text) (head :: tail.map (·.2)) ∧
      m.toDenomination = (Operand.evaluate head tail).denomination := by
  rw [parseUnit_of_ne htext] at hm
  cases hempty : (Expression.ofText text).emptyTerm? with
  | some term =>
    have herror := run_countedParse_of_error (run_evaluate_of_emptyTerm hempty o s) .unit
      aboutExpression rfl
    rw [run_bind_of_error herror] at hm
    cases hm
  | none =>
    -- every piece has a meaning, or one is stuck and the reading fails
    rcases finds_evaluate h hempty with
      ⟨u, v, hu, ⟨head, tail, hjoins, hmeans, rfl⟩, hsv⟩ | ⟨core, v, hu, -, -⟩
    · obtain ⟨m', t', hm', hdenomination, hbeside⟩ :=
        run_realize_beside (Operand.evaluate head tail) (after (count (.parse .unit true)) v)
      rw [run_bind_of_ok (run_countedParse_of_ok hu .unit aboutExpression), hm'] at hm
      obtain ⟨rfl, rfl⟩ := EStateM.Result.ok.inj hm
      exact ⟨(hsv.trans (beside_count _ v)).trans hbeside,
        Expression.emptyTerm?_eq_none_iff.1 hempty, head, tail, hjoins, hmeans, hdenomination⟩
    · rw [run_bind_of_error (run_countedParse_of_error hu .unit aboutExpression rfl)] at hm
      cases hm

/-- A text with an empty term is not read. -/
theorem not_run_parseUnit_of_broken (h : s.Consults o id r) {text : String}
    (hbroken : Expression.Broken text) (m : Measure) : (parseUnit o text).run s ≠ .ok m t := by
  intro hm
  have hvacant := (of_run_parseUnit h hbroken.ne hm).2.1 [] hbroken.nil_mem
  exact Bool.false_ne_true hvacant.symm

/-- A text with a number that is not finite is not read, since the number is written as a word that
means nothing. -/
theorem not_run_parseUnit_of_not_isFinite (hs : s.Addresses o id (Registry.standard name))
    {c : Chain Word} (hc : ∀ w ∈ c.items, w.Legible) {w : Word} (hw : w ∈ c.items)
    (hfinite : w.value.isFinite = false) (m : Measure) :
    (parseUnit o (String.ofList (c.map Word.text).text)).run s ≠ .ok m t := by
  have hplain : ∀ p ∈ (c.map Word.text).items, Plain p := by
    rw [Chain.items_map]
    exact fun p hp => by
      obtain ⟨w, hw, rfl⟩ := List.mem_map.1 hp
      exact (hc w hw).plain
  have htext : String.ofList (c.map Word.text).text ≠ "" := by
    intro hempty
    have hnil := congrArg String.toList hempty
    rw [String.toList_ofList] at hnil
    exact Chain.text_ne_nil hplain hnil
  -- if it were read, each of its pieces would have a meaning
  intro hm
  have hconsults := hs.consults (Registry.resolvers_standard name)
  obtain ⟨-, -, head, tail, -, hmeans, -⟩ := of_run_parseUnit hconsults htext hm
  rw [Chain.pieces_text hplain, Chain.items_map] at hmeans
  obtain ⟨x, hx⟩ := Expression.exists_means hmeans w.text (List.mem_map_of_mem hw)
  cases w with
  | atom a => cases hfinite
  | number y => exact Expression.not_means_plainText hfinite x hx

section

variable {head : Word} {steps : List (Join × Word)}
  (hlegible : ∀ step ∈ (Join.times, head) :: steps, step.2.Legible)
include hlegible

/-- Where the words are finite and leave no gap, the symbol of what they make is read as what they
make in the order of the symbol. -/
theorem run_parseUnit_rearranged (hs : s.Addresses o id r)
    (hreads : ∀ step ∈ (Join.times, head) :: steps, r.Reads step.2)
    (hfinite : ∀ step ∈ (Join.times, head) :: steps, step.2.value.isFinite = true)
    (hrecovers : Operand.Recovers (((.times, head) :: steps).map Word.meant)) :
    ∃ m t, (parseUnit o (Operand.evaluate head.value
        (steps.map Word.meant)).denomination.symbol).run s = .ok m t ∧ s.Beside t ∧
      m.toDenomination = (Operand.assembled (Operand.rearranged head.value
        (steps.map Word.meant))).denomination ∧
      m.dimension =
        (Operand.evaluate head.value (steps.map Word.meant)).denomination.dimension := by
  rcases spelled_of_recovers hlegible hrecovers with ⟨e, he, hspelled⟩ | ⟨hnil, hone⟩
  · have hmem : ∀ step ∈ e.signed, step ∈ (Join.times, head) :: steps := fun step hstep =>
      Word.mem_of_mem_rearranged (he ▸ hstep)
    obtain ⟨m, t, hm, hmade, hst⟩ := run_parseUnit_symbol hs (c := e) (fun w hw => by
      rw [Chain.items_eq_signed] at hw
      obtain ⟨step, hstep, rfl⟩ := List.mem_map.1 hw
      exact hreads step (hmem step hstep)) hspelled
    refine ⟨m, t, hm, hst, ?_, (congrArg Denomination.dimension hmade).trans
      (Word.dimension_evaluate he)⟩
    -- the numbers are read as what they were
    have hsigned : (e.map Word.operand).signed =
        Operand.rearranged head.value (steps.map Word.meant) := by
      rw [Chain.signed_map, ← Word.map_rearranged, ← he]
      exact List.map_congr_left fun step hstep =>
        congrArg (Prod.mk step.1) (Word.operand_eq_value (hfinite step (hmem step hstep)))
    rw [hmade, ← hsigned]
    rfl
  · rw [hone]
    refine ⟨_, s, rfl, .refl s, ?_, rfl⟩
    rw [← Word.map_rearranged, hnil]
    rfl

/-- The symbol of what words make is read only where they are finite and leave no gap. -/
theorem recovers_of_run_parseUnit (hs : s.Addresses o id (Registry.standard name)) {m : Measure}
    (hm : (parseUnit o (Operand.evaluate head.value
      (steps.map Word.meant)).denomination.symbol).run s = .ok m t) :
    (∀ step ∈ (Join.times, head) :: steps, step.2.value.isFinite = true) ∧
      Operand.Recovers (((.times, head) :: steps).map Word.meant) := by
  have hrecovers : Operand.Recovers (((.times, head) :: steps).map Word.meant) := by
    by_contra hnot
    exact not_run_parseUnit_of_broken (hs.consults (Registry.resolvers_standard name))
      (broken_of_not_recovers hlegible hnot) m hm
  refine ⟨fun step hstep => ?_, hrecovers⟩
  -- a number that is not finite is listed in the symbol, where it means nothing
  by_contra hfinite
  have hmem := Word.mem_rearranged_of_not_isFinite hstep (Bool.eq_false_iff.2 hfinite)
  rcases spelled_of_recovers hlegible hrecovers with ⟨e, he, hspelled⟩ | ⟨hnil, -⟩
  · rw [← he] at hmem
    have hitems : ∀ w ∈ e.items, ∃ step ∈ e.signed, step.2 = w := fun w hw => by
      rwa [Chain.items_eq_signed, List.mem_map] at hw
    rw [hspelled.symbol] at hm
    refine not_run_parseUnit_of_not_isFinite hs (fun w hw => ?_) (w := step.2) ?_
      (Bool.eq_false_iff.2 hfinite) m hm
    · obtain ⟨step, hstep, rfl⟩ := hitems w hw
      exact hlegible step (Word.mem_of_mem_rearranged (he ▸ hstep))
    · rw [Chain.items_eq_signed]
      exact List.mem_map_of_mem hmem
  · rw [hnil] at hmem
    cases hmem

end

/-- How the symbol of what was read with the standard registry is read again. The empty text stands
for the unit of pure numbers, and so does its symbol. For any other text, let `head` and `tail` be
what its terms mean, so that the unit is what these operands make. The symbol is read exactly where
all numbers among them are finite and they leave no gap in the symbol (`Operand.Recovers`). It is
then read as a unit of the same dimension, which is what the operands make in the order of the
symbol (`Operand.rearranged`). That is a unit with the same factor, too, where no number other than
1 is multiplied behind the first term, and the very same unit where moreover at most one number
stands in front of all units. Nothing is registered. -/
theorem parseUnit_again (name : String) (s : Session) (o : Option Nat) (id : Nat)
    (hs : s.Addresses o id (Registry.standard name)) (text : String) (m : Measure) (t : Session)
    (hm : (parseUnit o text).run s = .ok m t) :
    (text = "" → (parseUnit o m.symbol).run t = .ok m t) ∧
    (text ≠ "" → ∃ head tail, tail.map (·.1) = Expression.operators text ∧
      List.Forall₂ (Expression.Means (Registry.standard name)) (Expression.pieces text)
        (head :: tail.map (·.2)) ∧
      m.toDenomination = (Operand.evaluate head tail).denomination ∧
      ((∃ m' u, (parseUnit o m.symbol).run t = .ok m' u) ↔
        (∀ step ∈ (.times, head) :: tail, step.2.isFinite = true) ∧
          Operand.Recovers ((.times, head) :: tail)) ∧
      ∀ m' u, (parseUnit o m.symbol).run t = .ok m' u →
        u.registries = s.registries ∧ m'.dimension = m.dimension ∧
        m'.toDenomination = (Operand.assembled (Operand.rearranged head tail)).denomination ∧
        ((∀ step ∈ tail, Operand.moves step = false) → m'.factor = m.factor ∧
          ((((.times, head) :: tail).takeWhile Operand.scales).length ≤ 1 →
            m'.toDenomination = m.toDenomination))) := by
  have hconsults := hs.consults (Registry.resolvers_standard name)
  refine ⟨?_, fun htext => ?_⟩
  · rintro rfl
    obtain ⟨rfl, rfl⟩ := EStateM.Result.ok.inj hm
    rfl
  obtain ⟨hbeside, -, head, tail, hjoins, hmeans, hmade⟩ := of_run_parseUnit hconsults htext hm
  refine ⟨head, tail, hjoins, hmeans, hmade, ?_⟩
  obtain ⟨w, steps, rfl, rfl, hall⟩ := Expression.exists_words hmeans fun _ =>
    Expression.isOperator_of_mem_pieces
  have hlegible := fun step hstep => (hall step hstep).1
  have ht := hs.later hbeside
  rw [show m.symbol = _ from congrArg Denomination.symbol hmade,
    show m.dimension = _ from congrArg Denomination.dimension hmade,
    show m.factor = _ from congrArg Denomination.factor hmade, hmade]
  have hfinite : (∀ step ∈ (.times, w.value) :: steps.map Word.meant, step.2.isFinite = true) ↔
      ∀ step ∈ (Join.times, w) :: steps, step.2.value.isFinite = true := by
    rw [show (Join.times, w.value) :: steps.map Word.meant =
      ((Join.times, w) :: steps).map Word.meant from rfl, List.forall_mem_map]
    rfl
  -- the symbol is read where it should be, and only there
  have hread := fun hf hrecovers => run_parseUnit_rearranged hlegible ht
    (fun step hstep => (hall step hstep).2 (hf step hstep)) hf hrecovers
  have honly := fun m' u => recovers_of_run_parseUnit (m := m') (t := u) hlegible ht
  rw [hfinite]
  refine ⟨⟨fun ⟨m', u, hm'⟩ => honly m' u hm', fun ⟨hf, hrecovers⟩ => ?_⟩, fun m' u hm' => ?_⟩
  · obtain ⟨m', u, hm', -⟩ := hread hf hrecovers
    exact ⟨m', u, hm'⟩
  · obtain ⟨hf, hrecovers⟩ := honly m' u hm'
    obtain ⟨_, _, hrun, hbeside', hassembled, hdimension⟩ := hread hf hrecovers
    obtain ⟨rfl, rfl⟩ := EStateM.Result.ok.inj (hrun.symm.trans hm')
    refine ⟨(hbeside.trans hbeside').registries, hdimension, hassembled, fun hmoves => ⟨?_, ?_⟩⟩
    · exact (congrArg Denomination.factor hassembled).trans
        (Operand.factor_assembled_rearranged hmoves hrecovers)
    · intro hshort
      rw [hassembled, Operand.assembled_rearranged hmoves hrecovers hshort]

/-- The symbol of `36*km/h` is read as the same unit again. -/
theorem parseUnit_again_kilometers_per_hour :
    ∃ m t m' u, (parseUnit none "36*km/h").run (after standingRegistry (start true [])) = .ok m t ∧
      (parseUnit none m.symbol).run t = .ok m' u ∧ m'.toDenomination = m.toDenomination := by
  have hwords : ∀ w ∈ (Chain.cons (.number 36.0) .times
      (.cons (.atom (.unit Catalog.kilometer)) .per
        (.one (.atom (.unit Catalog.hour))))).items, (Registry.standard "default").Reads w := by
    intro w hw
    simp only [Chain.items, List.mem_cons, List.not_mem_nil, or_false] at hw
    rcases hw with rfl | rfl | rfl
    · exact .number (by decide +kernel)
    · exact Registry.reads_unit "default" (i := 9) rfl rfl
    · exact Registry.reads_unit "default" (i := 24) rfl rfl
  obtain ⟨m, t, hm, -, -⟩ := run_parseUnit_text (addresses_start true) hwords
  have htext : String.ofList ((Chain.cons (.number 36.0) .times
      (.cons (.atom (.unit Catalog.kilometer)) .per
        (.one (.atom (.unit Catalog.hour))))).map Word.text).text = "36*km/h" := by
    decide +kernel
  rw [htext] at hm
  obtain ⟨head, tail, hjoins, hmeans, -, hread, hagain⟩ := (parseUnit_again "default" _ none 0
    (addresses_start true) "36*km/h" m t hm).2 (by decide)
  have hpieces : Expression.pieces "36*km/h" = [['3', '6'], ['k', 'm'], ['h']] := by decide +kernel
  have hoperators : Expression.operators "36*km/h" = [.times, .per] := by decide +kernel
  rw [hoperators] at hjoins
  obtain ⟨⟨_, x⟩, rest, rfl, rfl, hrest⟩ := List.map_eq_cons_iff.1 hjoins
  obtain ⟨⟨_, y⟩, last, rfl, rfl, hlast⟩ := List.map_eq_cons_iff.1 hrest
  obtain rfl := List.map_eq_nil_iff.1 hlast
  rw [hpieces] at hmeans
  -- the first piece is a number, and the others are none
  have hthirtysix : Numeral.literal? ['3', '6'] = some ⟨false, ⟨36, 0⟩⟩ := by decide +kernel
  have hunits : ∀ p ∈ [['k', 'm'], ['h']], Numeral.literal? p = none := by decide +kernel
  have hunit : ∀ p ∈ [['k', 'm'], ['h']], ∀ z, Expression.Means (Registry.standard "default") p z →
      ∃ u, z = .unit u := fun p hp z hz => by
    cases hz with
    | number h => simp [hunits p hp] at h
    | unit _ _ => exact ⟨_, rfl⟩
  cases hmeans with
  | cons hhead hmeans =>
  cases hmeans with
  | cons hx hmeans =>
  cases hmeans with
  | cons hy hmeans =>
  obtain ⟨u, rfl⟩ := hunit _ (by simp) x hx
  obtain ⟨v, rfl⟩ := hunit _ (by simp) y hy
  cases hhead with
  | unit h _ => simp [hthirtysix] at h
  | @number l h =>
    obtain rfl : _ = l := Option.some.inj (hthirtysix.symm.trans h)
    obtain ⟨m', w, hm'⟩ := hread.2 ⟨by
      simp only [List.mem_cons, List.not_mem_nil, or_false, forall_eq_or_imp, forall_eq]
      exact ⟨by decide +kernel, rfl, rfl⟩, .inl (Nat.le_refl 1)⟩
    obtain ⟨-, -, -, hsame⟩ := hagain m' w hm'
    exact ⟨m, t, m', w, hm, hm', (hsame (by simp [Operand.moves])).2 (Nat.le_refl 1)⟩

/-- Not every symbol of what was read is read as an equal unit: `ft*3/h` is three feet divided by an
hour, and its symbol `3*ft/h` is read as three times a foot per hour, which is rounded differently.
-/
theorem not_forall_parseUnit_again :
    ¬∀ (s : Session) (o : Option Nat) (id : Nat),
      s.Addresses o id (Registry.standard "default") →
      ∀ (text : String) (m : Measure) (t : Session), (parseUnit o text).run s = .ok m t →
        ∃ m' u, (parseUnit o m.symbol).run t = .ok m' u ∧
          m'.toDenomination.agrees m.toDenomination = true := by
  intro h
  -- the words of the text, and those of the symbol that its unit gets
  let words : Chain Word := .cons (.atom (.unit Catalog.foot)) .times
    (.cons (.number 3.0) .per (.one (.atom (.unit Catalog.hour))))
  let respelled : Chain Word := .cons (.number 3.0) .times
    (.cons (.atom (.unit Catalog.foot)) .per (.one (.atom (.unit Catalog.hour))))
  have hfoot := Registry.reads_unit "default" (m := Catalog.foot) (i := 11) rfl rfl
  have hthree : (Registry.standard "default").Reads (.number 3.0) := .number (by decide +kernel)
  have hhour := Registry.reads_unit "default" (m := Catalog.hour) (i := 24) rfl rfl
  have hs := addresses_start true
  obtain ⟨m, t, hm, hmade, hst⟩ := run_parseUnit_text hs (c := words) (by
    intro w hw
    simp only [words, Chain.items, List.mem_cons, List.not_mem_nil, or_false] at hw
    rcases hw with rfl | rfl | rfl
    · exact hfoot
    · exact hthree
    · exact hhour)
  obtain ⟨m', u, hm', hagrees⟩ := h _ _ _ hs _ m t hm
  obtain ⟨w, v, hw, hread, -⟩ := run_parseUnit_text (hs.later hst) (c := respelled) (by
    intro w hw
    simp only [respelled, Chain.items, List.mem_cons, List.not_mem_nil, or_false] at hw
    rcases hw with rfl | rfl | rfl
    · exact hthree
    · exact hfoot
    · exact hhour)
  have hsymbol : (words.map Word.operand).evaluate.denomination.symbol =
      String.ofList (respelled.map Word.text).text := by
    decide +kernel
  rw [← hsymbol, ← hmade] at hw
  obtain ⟨rfl, rfl⟩ := EStateM.Result.ok.inj (hw.symm.trans hm')
  rw [hread, hmade] at hagrees
  revert hagrees
  decide +kernel

end Session

end Metrology
