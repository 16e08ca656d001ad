import Metrology.Proofs.Expression.Operand
import Metrology.Proofs.Expression.Terms
import Metrology.Proofs.Session.Conversion
import Metrology.Proofs.Text.Search
import Metrology.Session.Expression
import Metrology.Session.Standard

/-!
# What unit expressions are read as

A term that is no decimal literal stands for a unit: the registered one with this name or else with
this symbol, or a power of what its base stands for. `Stands`, `Stripped` and `Means` say this
without reference to how terms are looked up. Where a registry has no resolvers, reading an
expression comes out as they say (`parseUnit_outcome`): an empty term is found before anything is
looked up, the first term without a meaning is reported without its powers, and otherwise the unit
has the dimension and the factor that the operands make.
-/

namespace Metrology

open Session Text

/-- The registered unit with a name, or else with a symbol. -/
def Registry.known? (r : Registry) (text : List Char) : Option Measure :=
  (r.byName.get? (String.ofList text)).or (r.bySymbol.get? (String.ofList text))

namespace Expression

/-- The text is a base with a whole power behind its last caret. -/
def Suffixed (base : List Char) (n : Int) (text : List Char) : Prop :=
  ∃ digits, text = base ++ '^' :: digits ∧ '^' ∉ digits ∧ base ≠ [] ∧ whole? digits = some n

/-- A text with its powers taken off one by one. -/
inductive Stripped : List Char → List Char → Prop
  | done {text : List Char} (h : ∀ base n, ¬Suffixed base n text) : Stripped text text
  | power {text base core : List Char} {n : Int} (h : Suffixed base n text)
      (hbase : Stripped base core) : Stripped text core

/-- The unit that a term stands for. -/
inductive Stands (r : Registry) : List Char → Derived → Prop
  | known {text : List Char} {m : Measure} (h : r.known? text = some m) :
      Stands r text (.known m)
  | power {text base : List Char} {n : Int} {u : Derived} (h : r.known? text = none)
      (hs : Suffixed base n text) (hbase : Stands r base u) :
      Stands r text (.fresh (u.denomination.pow n))

/-- What a term stands for: a number if it is a decimal literal, and a unit otherwise. -/
inductive Means (r : Registry) : List Char → Operand → Prop
  | number {text : List Char} {l : Numeral.Literal} (h : Numeral.literal? text = some l) :
      Means r text (.number l.toFloat)
  | unit {text : List Char} {u : Derived} (h : Numeral.literal? text = none)
      (hu : Stands r text u) : Means r text (.unit u)

/-- Where pieces are related to what they mean, each of them means something. -/
theorem exists_means {r : Registry} {pieces : List (List Char)} {xs : List Operand}
    (h : List.Forall₂ (Means r) pieces xs) : ∀ p ∈ pieces, ∃ x, Means r p x :=
  (List.forall₂_and_left pieces xs).1 (h.imp fun _ x hx => ⟨⟨x, hx⟩, hx⟩) |>.1

/-- The first piece that stands for nothing is left as the core when its powers are taken off. -/
def Stuck (r : Registry) (pieces : List (List Char)) (core : List Char) : Prop :=
  ∃ before p after, pieces = before ++ p :: after ∧ (∀ q ∈ before, ∃ x, Means r q x) ∧
    (∀ x, ¬Means r p x) ∧ Stripped p core

/-! ## Powers -/

/-- The power suffix is found exactly where there is one. -/
theorem powerSuffix?_eq_some_iff {text base : List Char} {n : Int} :
    powerSuffix? text = some (base, n) ↔ Suffixed base n text := by
  unfold powerSuffix?
  constructor
  · intro h
    split at h
    · cases h
    · rename_i b digits hcut
      split at h
      · cases h
      · rename_i hb
        obtain ⟨k, hk, heq⟩ := Option.map_eq_some_iff.1 h
        cases heq
        obtain ⟨htext, hdigits⟩ := eq_append_of_cutLast? hcut
        exact ⟨digits, htext, hdigits, by simpa using hb, hk⟩
  · rintro ⟨digits, rfl, hdigits, hbase, hn⟩
    rw [cutLast?_append hdigits]
    simp [hbase, hn]

/-- Where no suffix is found there is none, whatever the base and the power. -/
theorem powerSuffix?_eq_none_iff {text : List Char} :
    powerSuffix? text = none ↔ ∀ base n, ¬Suffixed base n text := by
  constructor
  · intro h base n hs
    rw [powerSuffix?_eq_some_iff.2 hs] at h
    cases h
  · intro h
    cases hp : powerSuffix? text with
    | none => rfl
    | some p => exact absurd (powerSuffix?_eq_some_iff.1 hp) (h p.1 p.2)

/-- A text has one base and one power. -/
theorem Suffixed.unique {text base base' : List Char} {n n' : Int} (h : Suffixed base n text)
    (h' : Suffixed base' n' text) : base = base' ∧ n = n' := by
  have heq := (powerSuffix?_eq_some_iff.2 h).symm.trans (powerSuffix?_eq_some_iff.2 h')
  simpa using heq

/-- A base of a text without a meaning has none either. -/
theorem not_stands_of_suffixed {r : Registry} {text base : List Char} {n : Int}
    (h : r.known? text = none) (hs : Suffixed base n text) (hb : ∀ u, ¬Stands r base u)
    (u : Derived) : ¬Stands r text u := by
  intro hu
  cases hu with
  | known hm =>
    rw [h] at hm
    cases hm
  | power _ hs' hbase =>
    obtain ⟨rfl, rfl⟩ := hs.unique hs'
    exact hb _ hbase

end Expression

namespace Session

open Expression

variable {α β : Type} {o : Option Nat} {id : Nat} {r : Registry} {s t : Session}

/-! ## Looking terms up -/

/-- Where a registry is meant, it is this one, and it has no resolvers. -/
structure Consults (s : Session) (o : Option Nat) (id : Nat) (r : Registry) : Prop where
  meant : o = some id ∨ o = none ∧ s.standing = some id
  held : s.registryAt id = r
  alone : r.resolvers = []

/-- An operation beside the registries leaves the consulted registry what it is. -/
theorem Consults.later (h : s.Consults o id r) (ht : s.Beside t) : t.Consults o id r := by
  refine ⟨?_, ?_, h.alone⟩
  · rw [ht.standing]
    exact h.meant
  · rw [registryAt_congr ht.registries]
    exact h.held

/-- The operation answers with something of a kind, or reports a term that is of another kind. -/
def Finds (x : SessionM α) (s : Session) (P : α → Prop) (Q : List Char → Prop) : Prop :=
  (∃ a t, x.run s = .ok a t ∧ P a ∧ s.Beside t) ∨
  ∃ core t, x.run s = .error (.unknownUnit .expression (String.ofList core)) t ∧ Q core ∧ s.Beside t

theorem finds_pure {P : α → Prop} {Q : List Char → Prop} {a : α} (h : P a) :
    Finds (pure a) s P Q :=
  .inl ⟨a, s, rfl, h, .refl s⟩

/-- What follows a look-up begins where that one ends. -/
theorem Finds.after_bind {x : SessionM α} {f : α → SessionM β} {P : β → Prop}
    {Q : List Char → Prop} {a : α} (h : x.run s = .ok a t) (ht : s.Beside t)
    (hf : Finds (f a) t P Q) : Finds (x >>= f) s P Q := by
  rcases hf with ⟨b, u, hb, hP, htu⟩ | ⟨core, u, hb, hQ, htu⟩
  · exact .inl ⟨b, u, (run_bind_of_ok h f).trans hb, hP, ht.trans htu⟩
  · exact .inr ⟨core, u, (run_bind_of_ok h f).trans hb, hQ, ht.trans htu⟩

/-- What follows an operation begins where that one answers. -/
theorem Finds.bind {x : SessionM α} {f : α → SessionM β} {P : α → Prop} {P' : β → Prop}
    {Q Q' : List Char → Prop} (hx : Finds x s P Q) (hQ : ∀ core, Q core → Q' core)
    (hf : ∀ a t, P a → s.Beside t → Finds (f a) t P' Q') : Finds (x >>= f) s P' Q' := by
  rcases hx with ⟨a, t, hrun, ha, hst⟩ | ⟨core, t, hrun, hcore, hst⟩
  · exact (hf a t ha hst).after_bind hrun hst
  · exact .inr ⟨core, t, run_bind_of_error hrun f, hQ core hcore, hst⟩

/-- Looking a symbol up answers what the table holds and counts a hit or a miss. -/
theorem run_trySymbol (id : Nat) (symbol : String) (s : Session) :
    (trySymbol id symbol).run s = .ok ((s.registryAt id).bySymbol.get? symbol)
      (after (count (.symbolLookup
        (if ((s.registryAt id).bySymbol.get? symbol).isSome then .hit else .miss))) s) := rfl

/-- Resolvers that pass are heard in the journal only. -/
theorem beside_consultAll_of_pass {name : String} {rs : List Resolver}
    (h : ∀ a ∈ rs, a.reply name = .pass) (s : Session) :
    s.Beside (after (consultAll name rs) s) := by
  induction rs generalizing s with
  | nil => exact .refl s
  | cons a rs ih =>
    have hask : (consult name a).run s = .ok none (after (note (.consulted a.id name)) s) := by
      unfold consult
      rw [h a List.mem_cons_self]
      rfl
    rw [consultAll, after_bind_of_ok hask]
    exact (beside_note _ s).trans (ih (fun b hb => h b (List.mem_cons_of_mem a hb)) _)

/-- A term that no resolver answers is looked up by name and then by symbol. -/
theorem run_tryTerm_of_settles (hr : s.registryAt id = r) {text : List Char}
    (h : r.Settles (String.ofList text)) :
    ∃ t, (tryTerm id (String.ofList text)).run s = .ok (r.known? text) t ∧ s.Beside t := by
  unfold tryTerm Registry.known?
  cases hm : r.byName.get? (String.ofList text) with
  | some m =>
    have hname := hr ▸ hm
    exact ⟨_, run_bind_of_ok (run_tryName_of_get? hname) _, beside_count _ s⟩
  | none =>
    -- the name is not in the table, so the resolvers are asked, which pass
    have hpass : ∀ a ∈ r.resolvers, a.reply (String.ofList text) = .pass := by
      obtain ⟨m, hn⟩ | hp := h
      · rw [hm] at hn
        cases hn
      · exact hp
    have hname := run_tryName_of_pass (hr ▸ hm) (by rwa [hr])
    rw [hr] at hname
    have hbeside := (beside_consultAll_of_pass hpass s).trans (beside_count (.nameLookup .miss) _)
    have hsymbol := run_trySymbol id (String.ofList text)
      (after (count (.nameLookup .miss)) (after (consultAll (String.ofList text) r.resolvers) s))
    rw [registryAt_congr hbeside.registries, hr] at hsymbol
    exact ⟨_, (run_bind_of_ok hname _).trans hsymbol, hbeside.trans (beside_count _ _)⟩

/-- A term is looked up by name and then by symbol, and nothing but the counters changes. -/
theorem run_tryTerm (h : s.Consults o id r) (text : List Char) :
    ∃ t, (tryTerm id (String.ofList text)).run s = .ok (r.known? text) t ∧ s.Beside t :=
  run_tryTerm_of_settles h.held (.inr (by simp [h.alone]))

/-- A term is read as what it stands for; otherwise its core is reported. -/
theorem finds_resolveTerm (h : s.Consults o id r) (text : List Char) :
    Finds (resolveTerm id text) s (Stands r text)
      (fun core => (∀ u, ¬Stands r text u) ∧ Stripped text core) := by
  -- the term gets shorter with every power that is taken off
  induction hn : text.length using Nat.strongRecOn generalizing s text with
  | ind n ih =>
    obtain ⟨t, ht, hst⟩ := run_tryTerm h text
    rw [resolveTerm]
    refine Finds.after_bind ht hst ?_
    cases hk : r.known? text with
    | some m => exact finds_pure (.known hk)
    | none =>
      dsimp only
      split
      · rename_i base k hp
        have hs := powerSuffix?_eq_some_iff.1 hp
        refine (ih base.length (hn ▸ length_powerSuffix? hp) (h.later hst) base rfl).bind ?_ ?_
        · rintro core ⟨hbase, hcore⟩
          exact ⟨not_stands_of_suffixed hk hs hbase, .power hs hcore⟩
        · intro u t' hu _
          exact finds_pure (.power hk hs hu)
      · rename_i hp
        have hs := powerSuffix?_eq_none_iff.1 hp
        refine .inr ⟨text, t, rfl, ⟨fun u hu => ?_, .done hs⟩, .refl t⟩
        cases hu with
        | known hm =>
          rw [hk] at hm
          cases hm
        | power _ hs' _ => exact hs _ _ hs'

/-- Reading a term finds what it means, or reports its shortest base where it means nothing. -/
theorem finds_operand (h : s.Consults o id r) (term : Term) :
    Finds (operand o term) s (Means r term.text)
      (fun core => (∀ x, ¬Means r term.text x) ∧ Stripped term.text core) := by
  unfold operand
  cases hl : Numeral.literal? term.text with
  | some l => exact finds_pure (.number hl)
  | none =>
    -- what is no number is looked up
    refine Finds.after_bind (run_registryOr h.meant) (.refl s) ?_
    rw [map_eq_pure_bind]
    refine (finds_resolveTerm h term.text).bind ?_ ?_
    · rintro core ⟨hnone, hcore⟩
      refine ⟨fun x hx => ?_, hcore⟩
      cases hx with
      | number hn =>
        rw [hl] at hn
        cases hn
      | unit _ hu => exact hnone _ hu
    · intro u t hu _
      exact finds_pure (.unit hl hu)

/-- Terms are read one after another, up to the first one without a meaning. -/
theorem finds_operands (h : s.Consults o id r) (steps : List (Join × Term)) :
    Finds (steps.mapM fun (join, t) => do pure (join, ← operand o t)) s
      (fun xs => xs.map (·.1) = steps.map (·.1) ∧
        List.Forall₂ (Means r) (steps.map (·.2.text)) (xs.map (·.2)))
      (Stuck r (steps.map (·.2.text))) := by
  induction steps generalizing s with
  | nil => exact finds_pure ⟨rfl, .nil⟩
  | cons step steps ih =>
    obtain ⟨join, term⟩ := step
    rw [List.mapM_cons, bind_assoc]
    refine (finds_operand h term).bind ?_ ?_
    · rintro core ⟨hnone, hcore⟩
      exact ⟨[], term.text, _, rfl, by simp, hnone, hcore⟩
    · intro x t hx hst
      rw [pure_bind]
      refine (ih (h.later hst)).bind ?_ ?_
      -- the first term that means nothing is among the others
      · rintro core ⟨before, p, after, hsplit, hbefore, hp, hcore⟩
        refine ⟨term.text :: before, p, after, by simp [hsplit], ?_, hp, hcore⟩
        intro q hq
        rcases List.mem_cons.1 hq with rfl | hq
        · exact ⟨x, hx⟩
        · exact hbefore q hq
      · rintro xs u ⟨hjoins, hmeans⟩ _
        exact finds_pure ⟨by simp [hjoins], .cons hx hmeans⟩

/-! ## Reading expressions -/

/-- An empty term is found before anything is looked up. -/
theorem run_evaluate_of_emptyTerm {text : String} {term : Term}
    (h : (Expression.ofText text).emptyTerm? = some term) (o : Option Nat) (s : Session) :
    (evaluate o text).run s = .error (.emptyTerm term.offset text) s := by
  unfold evaluate
  dsimp only
  rw [h]
  rfl

/-- Without empty terms, an expression is read as what its operands make. -/
theorem finds_evaluate (h : s.Consults o id r) {text : String}
    (hv : (Expression.ofText text).emptyTerm? = none) :
    Finds (evaluate o text) s
      (fun u => ∃ head tail, tail.map (·.1) = operators text ∧
        List.Forall₂ (Means r) (pieces text) (head :: tail.map (·.2)) ∧
        u = Operand.evaluate head tail)
      (Stuck r (pieces text)) := by
  have hpieces : pieces text = (Expression.ofText text).head.text ::
      (Expression.ofText text).tail.map (·.2.text) := by
    rw [← texts_ofText, Expression.terms]
    simp
  rw [hpieces]
  unfold evaluate
  dsimp only
  rw [hv]
  refine (finds_operand h _).bind ?_ ?_
  · rintro core ⟨hnone, hcore⟩
    exact ⟨[], _, _, rfl, by simp, hnone, hcore⟩
  · intro head t hhead hst
    refine (finds_operands (h.later hst) _).bind ?_ ?_
    -- the first term that means nothing is behind the head
    · rintro core ⟨before, p, after, hsplit, hbefore, hp, hcore⟩
      refine ⟨_ :: before, p, after, by rw [hsplit]; rfl, ?_, hp, hcore⟩
      intro q hq
      rcases List.mem_cons.1 hq with rfl | hq
      · exact ⟨head, hhead⟩
      · exact hbefore q hq
    · rintro tail u ⟨hjoins, hmeans⟩ _
      exact finds_pure ⟨head, tail, by rw [hjoins, joins_ofText], .cons hhead hmeans, rfl⟩

/-- Issuing a unit gives out a serial number and changes nothing else. -/
theorem run_issue (d : Denomination) (s : Session) :
    ∃ m t, (issue d).run s = .ok m t ∧ m.toDenomination = d ∧ s.Beside t :=
  ⟨_, _, rfl, rfl, Nat.le_succ s.nextSerial, rfl⟩

/-- Issuing what was derived succeeds beside the registries. -/
theorem run_realize_beside (u : Derived) (s : Session) :
    ∃ m t, (realize u).run s = .ok m t ∧ m.toDenomination = u.denomination ∧ s.Beside t := by
  cases u with
  | known m => exact ⟨m, s, rfl, rfl, .refl s⟩
  | fresh d => exact run_issue d s

theorem run_realize (u : Derived) (s : Session) : ∃ m t, (realize u).run s = .ok m t ∧
    m.toDenomination = u.denomination ∧ t.registries = s.registries := by
  obtain ⟨m, t, hm, hdenomination, hst⟩ := run_realize_beside u s
  exact ⟨m, t, hm, hdenomination, hst.registries⟩

/-- An expression without empty terms is read where all of its pieces mean something. -/
theorem run_evaluate_of_means (h : s.Consults o id r) {text : String}
    (hvacant : ∀ p ∈ pieces text, isVacant p = false)
    (hmeans : ∀ p ∈ pieces text, ∃ x, Means r p x) :
    ∃ head tail t, (evaluate o text).run s = .ok (Operand.evaluate head tail) t ∧
      tail.map (·.1) = operators text ∧
      List.Forall₂ (Means r) (pieces text) (head :: tail.map (·.2)) ∧ s.Beside t := by
  rcases finds_evaluate h (emptyTerm?_eq_none_iff.2 hvacant) with
    ⟨u, t, hrun, ⟨head, tail, hjoins, hall, rfl⟩, hst⟩ |
    ⟨core, t, -, ⟨before, p, after, hsplit, -, hnone, -⟩, -⟩
  · exact ⟨head, tail, t, hrun, hjoins, hall, hst⟩
  · obtain ⟨x, hx⟩ := hmeans p (by rw [hsplit]; simp)
    exact absurd hx (hnone x)

/-- How a text that is not empty is read with a registry that has no resolvers. If one of its pieces
is vacant, the first such piece is reported and nothing is looked up. Otherwise, if a piece stands
for nothing, the first such piece is reported, without its powers. Otherwise the text is read as a
unit: the exponents of its dimension are the sum of those of the operands, with the opposite sign
behind a division, and its factor is computed from left to right, with a number in front last.
Nothing is registered in any case. -/
theorem parseUnit_outcome (s : Session) (o : Option Nat) (id : Nat) (r : Registry) (text : String)
    (hr : s.registries[id]? = some r) (hresolvers : r.resolvers = [])
    (ho : o = some id ∨ o = none ∧ s.standing = some id) (htext : text ≠ "") :
    ((∃ p ∈ pieces text, isVacant p = true) →
      ∃ before p after, pieces text = before ++ p :: after ∧
        (∀ q ∈ before, isVacant q = false) ∧ isVacant p = true ∧
        (parseUnit o text).run s =
          .error (.emptyTerm (before.map fun q => q.length + 1).sum text)
            { s with meters := s.meters.count (.parse .unit false) }) ∧
    ((∀ p ∈ pieces text, isVacant p = false) → (∃ p ∈ pieces text, ∀ x, ¬Means r p x) →
      ∃ core t, Stuck r (pieces text) core ∧ t.registries = s.registries ∧
        (parseUnit o text).run s = .error (.unknownUnit .expression (String.ofList core)) t) ∧
    ((∀ p ∈ pieces text, isVacant p = false) → (∀ p ∈ pieces text, ∃ x, Means r p x) →
      ∃ head tail m t, tail.map (·.1) = operators text ∧
        List.Forall₂ (Means r) (pieces text) (head :: tail.map (·.2)) ∧
        (parseUnit o text).run s = .ok m t ∧ t.registries = s.registries ∧
        m.dimension.vector =
          head.vector + (tail.map fun step => step.1.sign • step.2.vector).sum ∧
        m.factor = Operand.worth head tail) := by
  have hconsults : s.Consults o id r := ⟨ho, registryAt_of_getElem? hr, hresolvers⟩
  rw [parseUnit_of_ne htext]
  refine ⟨?_, ?_, ?_⟩
  · -- an empty term: the fault comes before the first look-up
    rintro ⟨p, hp, hvacant⟩
    cases hterm : (Expression.ofText text).emptyTerm? with
    | none =>
      rw [emptyTerm?_eq_none_iff.1 hterm p hp] at hvacant
      cases hvacant
    | some term =>
      obtain ⟨before, p, after, hsplit, hbefore, hp, hoffset⟩ := emptyTerm?_eq_some hterm
      have hrun := run_countedParse_of_error (run_evaluate_of_emptyTerm hterm o s) .unit
        aboutExpression rfl
      rw [hoffset] at hrun
      exact ⟨before, p, after, hsplit, hbefore, hp, run_bind_of_error hrun realize⟩
  · -- a piece without a meaning: reading cannot have answered
    rintro hvacant ⟨p, hp, hnone⟩
    rcases finds_evaluate hconsults (emptyTerm?_eq_none_iff.2 hvacant) with
      ⟨u, t, -, ⟨head, tail, -, hmeans, -⟩, -⟩ | ⟨core, t, hrun, hcore, hst⟩
    · obtain ⟨x, hx⟩ := exists_means hmeans p hp
      exact absurd hx (hnone x)
    · have herror := run_countedParse_of_error hrun .unit aboutExpression rfl
      exact ⟨core, _, hcore, (hst.trans (beside_count _ t)).registries,
        run_bind_of_error herror realize⟩
  · -- every piece has a meaning: reading cannot have failed
    intro hvacant hall
    obtain ⟨head, tail, t, hrun, hjoins, hmeans, hst⟩ :=
      run_evaluate_of_means hconsults hvacant hall
    have hparsed := run_countedParse_of_ok hrun .unit aboutExpression
    obtain ⟨m, t', hm, hdenomination, hregistries⟩ := run_realize (Operand.evaluate head tail)
      (after (count (.parse .unit true)) t)
    refine ⟨head, tail, m, t', hjoins, hmeans, (run_bind_of_ok hparsed realize).trans hm,
      hregistries.trans hst.registries, ?_, ?_⟩
    · rw [hdenomination, Operand.vector_evaluate]
    · rw [hdenomination, Operand.factor_evaluate]

/-- With meters and seconds registered, `m/s` is read as a unit. -/
theorem parseUnit_outcome_meter_per_second :
    ∃ m t, (parseUnit (some 0) "m/s").run (play [.create "units", .register 0 (.unit Catalog.meter),
      .register 0 (.unit Catalog.second)] (start true [])) = .ok m t := by
  have hpieces : pieces "m/s" = [['m'], ['s']] := by decide
  have hread := (parseUnit_outcome (play [.create "units", .register 0 (.unit Catalog.meter),
    .register 0 (.unit Catalog.second)] (start true [])) (some 0) 0 _ "m/s" rfl rfl (.inl rfl)
    (by decide)).2.2
  rw [hpieces] at hread
  obtain ⟨head, tail, m, t, -, -, hm, -⟩ := hread (by decide) (by
    intro p hp
    rcases List.mem_cons.1 hp with rfl | hp
    · exact ⟨_, .unit (by decide) (.known (m := Catalog.meter) rfl)⟩
    · obtain rfl := List.mem_singleton.1 hp
      exact ⟨_, .unit (by decide) (.known (m := Catalog.second) rfl)⟩)
  exact ⟨m, t, hm⟩

end Session

end Metrology
