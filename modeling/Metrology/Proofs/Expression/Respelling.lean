import Metrology.Proofs.Expression.Compound
import Metrology.Proofs.Expression.Gap
import Metrology.Proofs.Expression.Rearranging

/-!
# Words in symbols

The unit that the words of an expression make has a symbol that lists the same words, except that a
number goes to the front where it is multiplied, and is left out if it is 1 (`Chain.taken`). Numbers
in front of the first unit multiply the nameless unit of pure numbers, and leave a sign at an end of
the symbol, or a division sign where nothing stands in front of it. So a symbol lists its words
without a gap exactly where `Operand.Recovers` says so (`spelled_of_recovers`,
`broken_of_not_recovers`), and then in the order of `Operand.rearranged`.
-/

namespace Metrology

open Session Text

/-- What a word stands for where it was read. -/
def Word.value : Word → Operand
  | number x => .number x
  | atom a => .unit a.derived

/-- What a word stood for where it was read, with the join before it. -/
def Word.meant (step : Join × Word) : Join × Operand :=
  (step.1, step.2.value)

/-! ## Words as they are written -/

/-- What is not finite is written as a word. -/
theorem plainText_of_not_isFinite {x : Float} (h : Numeral.isFinite x = false) :
    Numeral.plainText x ∈ ["nan", "inf", "-inf"] := by
  unfold Numeral.isFinite at h
  unfold Numeral.plainText Numeral.text
  split
  · decide +kernel
  · split <;> decide +kernel
  · rename_i hfinite
    rw [hfinite] at h
    cases h

/-- Numbers are written plainly, infinite ones too. -/
theorem plain_plainText (x : Float) : Plain (Numeral.plainText x).toList := by
  cases hx : Numeral.isFinite x with
  | true =>
    obtain ⟨l, hl⟩ := Numeral.exists_literal?_plainText hx
    exact plain_of_literal? hl
  | false =>
    have hwords : ∀ text ∈ ["nan", "inf", "-inf"], Plain text.toList := by decide +kernel
    exact hwords _ (plainText_of_not_isFinite hx)

/-- The unit that an atom raises has a plain symbol. -/
def Word.Legible : Word → Prop
  | number _ => True
  | atom a => Plain a.base.symbol.toList

/-- A legible word is written as plain text. -/
theorem Word.Legible.plain {w : Word} (h : w.Legible) : Plain w.text := by
  cases w with
  | number x => exact plain_plainText x
  | atom a => exact Atom.plain_text h

/-- A unit and its powers spell out their own text. -/
theorem Atom.spelled {a : Atom} (h : Plain a.base.symbol.toList) :
    a.derived.denomination.Spelled (.one a.text) := by
  induction a with
  | unit m =>
    refine ⟨String.ofList_toList.symm, fun p hp => ?_⟩
    obtain rfl := List.mem_singleton.1 hp
    exact h
  | power a n ih => exact (ih h).pow n

/-! ## Symbols behind a sign -/

/-- The sign that a number in front of nothing leaves. -/
def sign (marked : Bool) : List Char :=
  if marked then ['*'] else []

/-- The symbol lists pieces, behind a multiplication sign where it is marked. -/
structure Denomination.Lists (d : Denomination) (marked : Bool) (c : Chain (List Char)) : Prop where
  symbol : d.symbol = String.ofList (sign marked ++ c.text)
  plain : ∀ p ∈ c.items, Plain p

/-- Of two multiplication signs in a row, one is left out. -/
theorem squeeze_pair (s t : List Char) :
    squeeze (s ++ '*' :: '*' :: t) = squeeze (s ++ '*' :: t) := by
  have hpair : squeeze ('*' :: '*' :: t) = squeeze ('*' :: t) := by
    rw [squeeze]
    exact if_pos rfl
  rw [← squeeze_append_squeeze, hpair, squeeze_append_squeeze]

namespace Denomination.Lists

variable {d m : Denomination} {c e : Chain (List Char)} {marked : Bool}

/-- A symbol without a sign in front lists what it spells out. -/
theorem of_spelled (h : d.Spelled c) : d.Lists false c :=
  ⟨h.symbol, h.plain⟩

/-- Without a sign in front, what is listed is spelled out. -/
theorem spelled (h : d.Lists false c) : d.Spelled c :=
  ⟨h.symbol, h.plain⟩

/-- Cleaning does not change a sign in front of plain pieces. -/
theorem derive {symbol : String} (hs : symbol = String.ofList (sign marked ++ c.text))
    (h : ∀ p ∈ c.items, Plain p) (name : String) (factor : Float) (dimension : Dimension) :
    (Denomination.derive name symbol factor dimension).Lists marked c := by
  refine ⟨?_, h⟩
  show squeezed symbol = _
  rw [hs]
  cases marked with
  | true => exact squeezed_marked h
  | false => exact Chain.squeezed_text h

/-- A sign in front stays where a unit is multiplied behind it. -/
theorem mul (hd : d.Lists marked c) (hm : m.Spelled e) :
    (d.mul m).Lists marked (c.append .times e) := by
  refine derive ?_ (Spelled.plain_append hd.plain hm.plain .times) _ _ _
  show d.symbol ++ "*" ++ m.symbol = _
  rw [hd.symbol, hm.symbol, Chain.text_append]
  exact String.toList_injective (by simp [Join.char])

/-- A sign in front stays where a unit is divided by. -/
theorem div (hd : d.Lists marked c) (hm : m.Spelled e) :
    (d.div m).Lists marked (c.append .per e) := by
  refine derive ?_ (Spelled.plain_append hd.plain hm.plain .per) _ _ _
  show d.symbol ++ "/" ++ m.symbol = _
  rw [hd.symbol, hm.symbol, Chain.text_append]
  exact String.toList_injective (by simp [Join.char])

/-- A sign in front stays where a number is divided by. -/
theorem fraction (hd : d.Lists marked c) {text : String} (ht : Plain text.toList) (scalar : Float) :
    (d.fraction text scalar).Lists marked (c.append .per (.one text.toList)) := by
  have htext : ∀ p ∈ (Chain.one text.toList).items, Plain p := fun p hp =>
    List.mem_singleton.1 hp ▸ ht
  refine derive ?_ (Spelled.plain_append hd.plain htext .per) _ _ _
  show d.symbol ++ "/" ++ text = _
  rw [hd.symbol, Chain.text_append, Chain.text]
  exact String.toList_injective (by simp [Join.char])

/-- A number in front of the sign makes the symbol whole. -/
theorem multiple (hd : d.Lists marked c) {text : String} (ht : Plain text.toList) (scalar : Float) :
    (d.multiple text scalar).Lists false (.cons text.toList .times c) := by
  cases marked with
  | false => exact of_spelled (hd.spelled.multiple ht scalar)
  | true =>
    have htext : ∀ p ∈ (Chain.one text.toList).items, Plain p := fun p hp =>
      List.mem_singleton.1 hp ▸ ht
    have hplain : ∀ p ∈ (Chain.cons text.toList .times c).items, Plain p :=
      Spelled.plain_append htext hd.plain .times
    refine ⟨?_, hplain⟩
    show squeezed (text ++ "*" ++ d.symbol) = _
    -- the sign that joins the number runs into the sign in front
    have hsymbol : (text ++ "*" ++ d.symbol).toList = text.toList ++ '*' :: '*' :: c.text := by
      rw [hd.symbol]
      simp [sign]
    rw [squeezed, hsymbol, squeeze_pair, sign, if_neg Bool.false_ne_true, List.nil_append,
      ← Chain.squeezed_text hplain, squeezed, String.toList_ofList]
    rfl

/-- A symbol behind a sign has an empty term. -/
theorem broken (h : d.Lists true c) : Expression.Broken d.symbol := by
  rw [h.symbol]
  exact broken_of_marked h.plain

end Denomination.Lists

/-! ## Taking words in -/

namespace Chain

/-- The words of a symbol with one more taken in: a number that is multiplied goes to the front, if
it is not 1, and all else to the end. -/
def taken (e : Chain Word) : Join × Word → Chain Word
  | (.times, .number x) => if x == 1.0 then e else .cons (.number x) .times e
  | (.times, .atom a) => e.append .times (.one (.atom a))
  | (.per, w) => e.append .per (.one w)

/-- Taking words in puts the numbers in front, the last one first, and the others behind. -/
theorem signed_foldl_taken (e : Chain Word) (steps : List (Join × Word)) :
    (steps.foldl taken e).signed =
      (steps.filter fun step => Operand.moves (Word.meant step)).reverse ++ e.signed ++
        steps.filter fun step => !Operand.scales (Word.meant step) := by
  induction steps generalizing e with
  | nil => simp
  | cons step steps ih =>
    obtain ⟨join, w⟩ := step
    rw [List.foldl_cons, ih]
    cases join with
    | times =>
      cases w with
      | number x =>
        -- a number goes to the front, a 1 is dropped, and the others go behind
        cases hx : x == 1.0 with
        | true => simp [taken, Word.meant, Word.value, Operand.moves, Operand.scales, hx]
        | false =>
          simp [taken, Word.meant, Word.value, Operand.moves, Operand.scales, hx, signed_cons_times]
      | atom a =>
        simp [taken, Word.meant, Word.value, Operand.moves, Operand.scales, signed_append, head,
          tail]
    | per =>
      cases w <;>
        simp [taken, Word.meant, Word.value, Operand.moves, Operand.scales, signed_append, head,
          tail]

end Chain

/-- Joining a unit with what a word stands for takes the word into its symbol. A number that is
multiplied and written takes away the sign in front. -/
theorem Denomination.Lists.joined {u : Derived} {marked : Bool} {e : Chain Word}
    (hu : u.denomination.Lists marked (e.map Word.text)) {w : Word} (hw : w.Legible) (join : Join) :
    (Operand.joined u join w.value).denomination.Lists
      (marked && !Operand.moves (Word.meant (join, w))) ((e.taken (join, w)).map Word.text) := by
  have hkeep : (marked && !false) = marked := Bool.and_true marked
  cases join with
  | times =>
    cases w with
    | number x =>
      -- only a number that is written takes the sign in front away
      show (u.times x).denomination.Lists (marked && !!(x == 1.0)) _
      rw [Chain.taken, Derived.times]
      cases hx : x == 1.0 with
      | true => simpa using hu
      | false =>
        rw [Bool.not_not, Bool.and_false, if_neg Bool.false_ne_true, if_neg Bool.false_ne_true]
        exact hu.multiple (plain_plainText x) x
    | atom a =>
      show Denomination.Lists _ (marked && !false) _
      rw [Chain.taken, Chain.map_append, hkeep]
      exact hu.mul (Atom.spelled hw)
  | per =>
    show Denomination.Lists _ (marked && !false) _
    rw [Chain.taken, Chain.map_append, hkeep]
    cases w with
    | number x => exact hu.fraction (plain_plainText x) x
    | atom a => exact hu.div (Atom.spelled hw)

/-- Joining a unit with words, one after another, takes them into its symbol. -/
theorem Denomination.Lists.foldl {u : Derived} {marked : Bool} {e : Chain Word}
    (hu : u.denomination.Lists marked (e.map Word.text)) {steps : List (Join × Word)}
    (hw : ∀ step ∈ steps, step.2.Legible) :
    (steps.foldl (fun u step => Operand.joined u step.1 step.2.value) u).denomination.Lists
      (marked && !steps.any fun step => Operand.moves (Word.meant step))
      ((steps.foldl Chain.taken e).map Word.text) := by
  induction steps generalizing u e marked with
  | nil => simpa using hu
  | cons step steps ih =>
    have hrest := ih (hu.joined (hw step List.mem_cons_self) step.1)
      fun step hstep => hw step (List.mem_cons_of_mem _ hstep)
    rw [List.any_cons, Bool.not_or, ← Bool.and_assoc]
    exact hrest

/-! ## Numbers in front -/

/-- The symbol lists pieces and ends in a multiplication sign. -/
structure Denomination.Leads (d : Denomination) (c : Chain (List Char)) : Prop where
  symbol : d.symbol = String.ofList (c.text ++ ['*'])
  plain : ∀ p ∈ c.items, Plain p

namespace Denomination.Leads

variable {d m : Denomination} {c e : Chain (List Char)}

/-- A number times the unit of pure numbers leads. -/
theorem one {text : String} (ht : Plain text.toList) (scalar : Float) :
    (Denomination.one.multiple text scalar).Leads (.one text.toList) := by
  have hplain : ∀ p ∈ (Chain.one text.toList).items, Plain p := by
    intro p hp
    obtain rfl := List.mem_singleton.1 hp
    exact ht
  refine ⟨?_, hplain⟩
  rw [← squeezed_led hplain]
  show squeezed (text ++ "*" ++ "") = _
  exact congrArg squeezed (String.toList_injective (by simp [Chain.text]))

/-- Behind a trailing sign, a number in front is written as anywhere else. -/
theorem multiple (hd : d.Leads c) {text : String} (ht : Plain text.toList) (scalar : Float) :
    (d.multiple text scalar).Leads (.cons text.toList .times c) := by
  have hplain : ∀ p ∈ (Chain.cons text.toList .times c).items, Plain p := by
    intro p hp
    rcases List.mem_cons.1 hp with rfl | hp
    · exact ht
    · exact hd.plain p hp
  refine ⟨?_, hplain⟩
  rw [← squeezed_led hplain]
  show squeezed (text ++ "*" ++ d.symbol) = _
  rw [hd.symbol]
  exact congrArg squeezed (String.toList_injective (by simp [Chain.text, Join.char]))

/-- What stands behind the sign in a product is listed behind the pieces. -/
theorem mul (hd : d.Leads c) (hm : m.Spelled e) : (d.mul m).Spelled (c.append .times e) := by
  have hplain := Spelled.plain_append hd.plain hm.plain .times
  refine ⟨?_, hplain⟩
  rw [← Chain.squeezed_text hplain]
  show squeezed (d.symbol ++ "*" ++ m.symbol) = _
  have hsymbol : (d.symbol ++ "*" ++ m.symbol).toList = c.text ++ '*' :: '*' :: e.text := by
    rw [hd.symbol, hm.symbol]
    simp
  rw [squeezed, hsymbol, squeeze_pair, squeezed, String.toList_ofList, Chain.text_append]
  rfl

/-- A quotient has a gap behind the sign. -/
theorem gapped (hd : d.Leads c) (text : String) : Gapped (d.symbol ++ "/" ++ text).toList := by
  have hsplit : (d.symbol ++ "/" ++ text).toList = c.text ++ ('*' :: '/' :: text.toList) := by
    rw [hd.symbol]
    simp
  rw [hsplit]
  exact gapped_iff.2 (.inr ⟨c.text, text.toList, by simp⟩)

/-- A symbol that ends in a sign has an empty term behind it. -/
theorem broken (h : d.Leads c) : Expression.Broken d.symbol := by
  rw [h.symbol]
  exact broken_of_led h.plain

end Denomination.Leads

namespace Chain

/-- A number in front of others, if there are any. -/
def listed (x : Float) : Option (Chain Word) → Chain Word
  | none => .one (.number x)
  | some c => .cons (.number x) .times c

/-- The numbers in front of the first unit as the symbol lists them, if it lists any, with one more.
-/
def numbered (c : Option (Chain Word)) (x : Float) : Option (Chain Word) :=
  if x == 1.0 then c else some (listed x c)

/-- The words behind the numbers in front. -/
def behind (e : Chain Word) : Option (Chain Word) → Chain Word
  | none => e
  | some c => c.append .times e

/-- One more number in front of the unit is taken in like a number behind it. -/
theorem behind_numbered (e : Chain Word) (c : Option (Chain Word)) (x : Float) :
    e.behind (numbered c x) = (e.behind c).taken (.times, .number x) := by
  rw [numbered, taken]
  split
  · rfl
  · cases c <;> rfl

/-- Numbers in front of a unit are taken in like numbers behind it, in the same order. -/
theorem behind_foldl (e : Chain Word) (c : Option (Chain Word)) (xs : List Float) :
    e.behind (xs.foldl numbered c) =
      (xs.map fun x => (Join.times, Word.number x)).foldl taken (e.behind c) := by
  induction xs generalizing c with
  | nil => rfl
  | cons x xs ih => rw [List.foldl_cons, ih, behind_numbered, List.map_cons, List.foldl_cons]

/-- Numbers are listed where one of them is not 1. -/
theorem isSome_foldl_numbered (c : Option (Chain Word)) (xs : List Float) :
    (xs.foldl numbered c).isSome = (c.isSome || xs.any fun x => !(x == 1.0)) := by
  induction xs generalizing c with
  | nil => simp
  | cons x xs ih =>
    rw [List.foldl_cons, ih, List.any_cons, numbered]
    cases x == 1.0 <;> simp

end Chain

/-- The unit is what the numbers in front make: the unit of pure numbers, or a multiple of it that
lists them. -/
def Derived.Begins (u : Derived) : Option (Chain Word) → Prop
  | none => u = .known .one
  | some c => u.denomination.Leads (c.map Word.text)

namespace Derived.Begins

variable {u : Derived} {c : Option (Chain Word)}

/-- One more number goes in front of those that the symbol begins with. -/
theorem times (hu : u.Begins c) (x : Float) : (u.times x).Begins (Chain.numbered c x) := by
  rw [Derived.times, Chain.numbered]
  split
  · exact hu
  · cases c with
    | none =>
      obtain rfl := hu
      exact .one (plain_plainText x) x
    | some c => exact Denomination.Leads.multiple hu (plain_plainText x) x

/-- Numbers that multiply one after another are listed one before another. -/
theorem foldl (hu : u.Begins c) (xs : List Float) :
    (xs.foldl (fun u x => u.times x) u).Begins (xs.foldl Chain.numbered c) := by
  induction xs generalizing u c with
  | nil => exact hu
  | cons x xs ih => exact ih (hu.times x)

/-- A unit behind the numbers is listed behind them; behind none that is listed there is the sign
only. -/
theorem mul (hu : u.Begins c) {a : Atom} (ha : Plain a.base.symbol.toList) :
    (Operand.joined u .times (.unit a.derived)).denomination.Lists (!c.isSome)
      (((Chain.one (.atom a)).behind c).map Word.text) := by
  cases c with
  | some c =>
    rw [Chain.behind, Chain.map_append]
    exact .of_spelled (Denomination.Leads.mul hu (Atom.spelled ha))
  | none =>
    obtain rfl := hu
    have hspelled := Atom.spelled ha
    refine Denomination.Lists.derive ?_ hspelled.plain _ _ _
    show "" ++ "*" ++ a.derived.denomination.symbol = _
    rw [hspelled.symbol]
    exact String.toList_injective (by simp [sign])

/-- Dividing numbers by something leaves a gap. -/
theorem gapped (hu : u.Begins c) (w : Word) :
    Gapped (Operand.joined u .per w.value).denomination.symbol.toList := by
  -- there is a trailing sign, or nothing at all, in front of the division
  have hgap : ∀ text : String, Gapped (u.denomination.symbol ++ "/" ++ text).toList := by
    intro text
    cases c with
    | some c => exact Denomination.Leads.gapped hu text
    | none =>
      obtain rfl := hu
      exact gapped_iff.2 (.inl (by simp [Derived.denomination, Measure.one, Denomination.one,
        Denomination.declare, squeezed, squeeze]))
  cases w with
  | number x =>
    show Gapped (squeezed _).toList
    rw [squeezed, String.toList_ofList]
    exact (hgap _).squeeze
  | atom a =>
    show Gapped (squeezed _).toList
    rw [squeezed, String.toList_ofList]
    exact (hgap _).squeeze

end Derived.Begins

/-- A symbol with a gap keeps it. -/
theorem Gapped.joined {u : Derived} (hu : Gapped u.denomination.symbol.toList) (join : Join)
    (x : Operand) : Gapped (Operand.joined u join x).denomination.symbol.toList := by
  -- nearly everything is joined behind the symbol
  have hbehind : ∀ text : String, Gapped (squeezed (u.denomination.symbol ++ text)).toList := by
    intro text
    rw [squeezed, String.toList_ofList, String.toList_append]
    exact (hu.append _).squeeze
  cases join with
  | times =>
    cases x with
    | number x =>
      show Gapped (u.times x).denomination.symbol.toList
      -- a number goes in front
      rw [Derived.times]
      split
      · exact hu
      · show Gapped (squeezed (Numeral.plainText x ++ "*" ++ u.denomination.symbol)).toList
        rw [squeezed, String.toList_ofList, String.toList_append, String.toList_append,
          List.append_assoc]
        exact (hu.behind _).squeeze
    | unit v =>
      show Gapped (squeezed (u.denomination.symbol ++ "*" ++ v.denomination.symbol)).toList
      rw [String.append_assoc]
      exact hbehind _
  | per =>
    cases x with
    | number x =>
      show Gapped (squeezed (u.denomination.symbol ++ "/" ++ Numeral.plainText x)).toList
      rw [String.append_assoc]
      exact hbehind _
    | unit v =>
      show Gapped (squeezed (u.denomination.symbol ++ "/" ++ v.denomination.symbol)).toList
      rw [String.append_assoc]
      exact hbehind _

/-- A gap in a symbol stays, whatever is joined to the unit. -/
theorem Gapped.foldl {u : Derived} (hu : Gapped u.denomination.symbol.toList)
    (steps : List (Join × Operand)) :
    Gapped (steps.foldl (fun u step => Operand.joined u step.1 step.2) u).denomination.symbol.toList
    := by
  induction steps generalizing u with
  | nil => exact hu
  | cons step steps ih => exact ih (hu.joined step.1 step.2)

/-! ## Which symbols are whole -/

namespace Word

/-- Numbers that are multiplied. -/
def factors (xs : List Float) : List (Join × Word) :=
  xs.map fun x => (.times, .number x)

/-- In front of all other words there are numbers that are multiplied, maybe none. -/
theorem exists_factors (steps : List (Join × Word)) : ∃ xs rest, steps = factors xs ++ rest ∧
    (rest = [] ∨ (∃ a after, rest = (.times, .atom a) :: after) ∨
      ∃ w after, rest = (.per, w) :: after) := by
  induction steps with
  | nil => exact ⟨[], [], rfl, .inl rfl⟩
  | cons step steps ih =>
    obtain ⟨join, w⟩ := step
    cases join with
    | per => exact ⟨[], _, rfl, .inr (.inr ⟨w, steps, rfl⟩)⟩
    | times =>
      cases w with
      | atom a => exact ⟨[], _, rfl, .inr (.inl ⟨a, steps, rfl⟩)⟩
      | number x =>
        obtain ⟨xs, rest, rfl, hrest⟩ := ih
        exact ⟨x :: xs, rest, rfl, hrest⟩

/-- What numbers that are multiplied mean, multiplies by numbers. -/
theorem scales_factors (xs : List Float) :
    ∀ step ∈ (factors xs).map meant, Operand.scales step = true := by
  simp [factors, meant, value, Operand.scales]

/-- The words in the order in which the symbol lists them. -/
def rearranged (head : Word) (steps : List (Join × Word)) : List (Join × Word) :=
  [(Join.times, head)].filter (fun step => Operand.moves (meant step)) ++
    (steps.filter fun step => Operand.moves (meant step)).reverse ++
    ((.times, head) :: steps).filter fun step => !Operand.scales (meant step)

/-- Words and what they mean are put in the order of the symbol alike. -/
theorem map_rearranged (head : Word) (steps : List (Join × Word)) :
    (rearranged head steps).map meant = Operand.rearranged head.value (steps.map meant) := by
  have hfilter : ∀ (p : Join × Operand → Bool) (l : List (Join × Word)),
      (l.filter fun step => p (meant step)).map meant = (l.map meant).filter p :=
    fun p l => List.filter_map.symm
  rw [rearranged, List.map_append, List.map_append, List.map_reverse, hfilter, hfilter,
    hfilter fun step => !Operand.scales step]
  rfl

/-- Of numbers in front, those that are written stand in front, and the others are left out. -/
theorem rearranged_factors (k : Float) (xs : List Float) (a : Atom) (after : List (Join × Word)) :
    rearranged (.number k) (factors xs ++ (.times, .atom a) :: after) =
      [(Join.times, Word.number k)].filter (fun step => Operand.moves (meant step)) ++
        (((factors xs ++ after).filter fun step => Operand.moves (meant step)).reverse ++
          (Chain.one (.atom a)).signed ++
            (factors xs ++ after).filter fun step => !Operand.scales (meant step)) := by
  -- the numbers in front are not among the others
  have hnumbers : ∀ (ys : List Float) (rest : List (Join × Word)),
      (factors ys ++ rest).filter (fun step => !Operand.scales (meant step)) =
        rest.filter fun step => !Operand.scales (meant step) := by
    intro ys rest
    have hnone : (factors ys).filter (fun step => !Operand.scales (meant step)) = [] := by
      rw [List.filter_eq_nil_iff]
      simp [factors, meant, value, Operand.scales]
    rw [List.filter_append, hnone, List.nil_append]
  have hall := hnumbers (k :: xs) ((.times, .atom a) :: after)
  rw [List.filter_cons_of_pos rfl] at hall
  rw [rearranged, ← List.cons_append, show (Join.times, Word.number k) :: factors xs =
    factors (k :: xs) from rfl, hall, hnumbers, List.filter_append, List.filter_append,
    List.filter_cons_of_neg (a := (Join.times, Word.atom a)) Bool.false_ne_true]
  simp [Chain.signed, Chain.head, Chain.tail]

/-- The order of the symbol has no words of its own. -/
theorem mem_of_mem_rearranged {head : Word} {steps : List (Join × Word)} {step : Join × Word}
    (h : step ∈ rearranged head steps) : step ∈ (.times, head) :: steps := by
  rw [rearranged, List.mem_append, List.mem_append, List.mem_reverse, List.mem_filter,
    List.mem_filter, List.mem_filter, List.mem_singleton] at h
  rcases h with (⟨rfl, -⟩ | ⟨hstep, -⟩) | ⟨hstep, -⟩
  · exact List.mem_cons_self
  · exact List.mem_cons_of_mem _ hstep
  · exact hstep

end Word

/-- What numbers in front make of the unit of pure numbers. -/
theorem Derived.begins_factors (xs : List Float) :
    ((Word.factors xs).foldl (fun u step => Operand.joined u step.1 step.2.value)
      (.known .one)).Begins (xs.foldl Chain.numbered none) := by
  rw [Word.factors, List.foldl_map]
  exact Derived.Begins.foldl (u := .known .one) (c := none) rfl xs

section

variable {head : Word} {steps : List (Join × Word)}

/-- Behind a unit in front, the symbol lists all words. -/
theorem spelled_atom {a : Atom} (ha : Plain a.base.symbol.toList)
    (hw : ∀ step ∈ steps, step.2.Legible) :
    (Operand.evaluate (.unit a.derived) (steps.map Word.meant)).denomination.Spelled
      ((steps.foldl Chain.taken (.one (.atom a))).map Word.text) := by
  have hfold := (Denomination.Lists.of_spelled (c := (Chain.one (.atom a)).map Word.text)
    (Atom.spelled ha)).foldl hw
  rw [Operand.evaluate_unit, List.foldl_map]
  exact hfold.spelled

/-- Behind numbers in front of a unit, the symbol lists all words, but there is a sign in front of
them where there are several numbers and none is written. -/
theorem lists_factors {a : Atom} (ha : Plain a.base.symbol.toList) (xs : List Float)
    (hw : ∀ step ∈ steps, step.2.Legible) (k : Float) :
    (Operand.evaluate (.number k)
      ((Word.factors xs ++ (.times, .atom a) :: steps).map Word.meant)).denomination.Lists
        (!xs.isEmpty && !((Word.factors (k :: xs) ++ (.times, .atom a) :: steps).any fun step =>
          Operand.moves (Word.meant step)))
        ((((Word.factors xs ++ steps).foldl Chain.taken (.one (.atom a))).taken
          (.times, .number k)).map Word.text) := by
  cases xs with
  | nil =>
    -- the number in front multiplies what the others make
    have hspelled := spelled_atom ha hw
    have hall := (Denomination.Lists.of_spelled hspelled).joined (w := .number k) trivial .times
    show (Operand.evaluate (.number k)
      ((.times, .unit a.derived) :: steps.map Word.meant)).denomination.Lists false _
    rw [Operand.evaluate_number_unit]
    exact hall
  | cons x xs =>
    have hopen : ∀ u rest, (Word.factors (x :: xs) ++ (.times, .atom a) :: steps).map Word.meant ≠
        (.times, .unit u) :: rest := by
      simp [Word.factors, Word.meant, Word.value]
    have hmul := (Derived.begins_factors (x :: xs)).mul ha
    rw [Chain.behind_foldl, Chain.isSome_foldl_numbered] at hmul
    have hall := (hmul.foldl hw).joined (w := .number k) trivial .times
    have hany : (Word.factors (k :: x :: xs) ++ (.times, .atom a) :: steps).any
        (fun step => Operand.moves (Word.meant step)) =
        (((x :: xs).any fun x => !(x == 1.0)) ||
          (steps.any fun step => Operand.moves (Word.meant step)) ||
          Operand.moves (Word.meant (.times, .number k))) := by
      have hfactors : (Word.factors (x :: xs)).any (fun step => Operand.moves (Word.meant step)) =
          (x :: xs).any fun x => !(x == 1.0) := by
        rw [Word.factors, List.any_map]
        rfl
      rw [Word.factors, List.map_cons, List.cons_append, List.any_cons, ← Word.factors,
        List.any_append, hfactors, List.any_cons]
      exact Bool.or_comm _ _
    rw [Operand.evaluate_number k hopen, List.foldl_map, List.foldl_append, List.foldl_cons,
      List.foldl_append, hany, Bool.not_or, Bool.not_or]
    exact hall

/-- Numbers alone make the unit of pure numbers, or a multiple of it. -/
theorem begins_evaluate (k : Float) (xs : List Float) :
    (Operand.evaluate (.number k) ((Word.factors xs).map Word.meant)).Begins
      ((xs ++ [k]).foldl Chain.numbered none) := by
  have hopen : ∀ u rest, (Word.factors xs).map Word.meant ≠ (.times, .unit u) :: rest := by
    cases xs <;> simp [Word.factors, Word.meant, Word.value]
  rw [Operand.evaluate_number k hopen, List.foldl_map, List.foldl_append]
  exact (Derived.begins_factors xs).times k

/-- The number in front is listed first, unless it is 1. -/
theorem signed_taken_number (e : Chain Word) (k : Float) :
    (e.taken (.times, .number k)).signed =
      [(Join.times, Word.number k)].filter (fun step => Operand.moves (Word.meant step)) ++
        e.signed := by
  have hsigned := e.signed_foldl_taken [(.times, .number k)]
  have hnone : [(Join.times, Word.number k)].filter
      (fun step => !Operand.scales (Word.meant step)) = [] := rfl
  rw [List.foldl_cons, List.foldl_nil, hnone, List.append_nil] at hsigned
  rw [hsigned]
  cases hk : Operand.moves (Word.meant (Join.times, Word.number k)) <;> simp [hk]

/-- Numbers alone recover where none of them is listed. -/
theorem recovers_factors_iff (k : Float) (xs : List Float) :
    Operand.Recovers ((Word.factors (k :: xs)).map Word.meant) ↔
      (xs ++ [k]).foldl Chain.numbered none = none := by
  rw [Operand.recovers_numbers (Word.scales_factors _), ← Option.not_isSome_iff_eq_none,
    Chain.isSome_foldl_numbered]
  simp [Word.factors, Word.meant, Word.value, Operand.moves, and_comm]

/-- Numbers in front of a unit recover where no sign stands in front of what the symbol lists. -/
theorem recovers_factors_atom_iff (k : Float) (xs : List Float) (a : Atom)
    (after : List (Join × Word)) :
    Operand.Recovers ((Word.factors (k :: xs) ++ (.times, .atom a) :: after).map Word.meant) ↔
      (!xs.isEmpty && !((Word.factors (k :: xs) ++ (.times, .atom a) :: after).any fun step =>
        Operand.moves (Word.meant step))) = false := by
  have hmoves : (∃ step ∈ (Word.factors (k :: xs) ++ (.times, .atom a) :: after).map Word.meant,
      Operand.moves step = true) ↔ ((Word.factors (k :: xs) ++ (.times, .atom a) :: after).any
        fun step => Operand.moves (Word.meant step)) = true := by
    simp only [List.any_eq_true, List.mem_map, exists_exists_and_eq_and]
  have hfew : ((Word.factors (k :: xs)).map Word.meant).length ≤ 1 ↔ xs = [] := by
    simp [Word.factors]
  rw [List.map_append, List.map_cons] at hmoves ⊢
  rw [show Word.meant (.times, .atom a) = (.times, .unit a.derived) from rfl] at hmoves ⊢
  rw [Operand.recovers_unit (Word.scales_factors _), hmoves, hfew, Bool.and_eq_false_iff,
    Bool.not_eq_false', Bool.not_eq_false', List.isEmpty_iff]

/-- Where the operands recover, the symbol of the unit lists the words, rearranged; or all of them
are 1, and the unit is that of pure numbers. -/
theorem spelled_of_recovers (hw : ∀ step ∈ (Join.times, head) :: steps, step.2.Legible)
    (h : Operand.Recovers (((.times, head) :: steps).map Word.meant)) :
    (∃ e : Chain Word, e.signed = Word.rearranged head steps ∧
      (Operand.evaluate head.value (steps.map Word.meant)).denomination.Spelled
        (e.map Word.text)) ∨
    Word.rearranged head steps = [] ∧
      Operand.evaluate head.value (steps.map Word.meant) = .known .one := by
  have hsteps := fun step hstep => hw step (List.mem_cons_of_mem _ hstep)
  cases head with
  | atom a =>
    refine .inl ⟨_, ?_, spelled_atom (hw _ List.mem_cons_self) hsteps⟩
    rw [Chain.signed_foldl_taken]
    simp [Word.rearranged, Chain.signed, Chain.head, Chain.tail, Word.meant, Word.value,
      Operand.moves, Operand.scales]
  | number k =>
    obtain ⟨xs, rest, rfl, hrest⟩ := Word.exists_factors steps
    rw [← List.cons_append, show (Join.times, Word.number k) :: Word.factors xs =
      Word.factors (k :: xs) from rfl] at h
    rcases hrest with rfl | ⟨a, after, rfl⟩ | ⟨w, after, rfl⟩
    · -- nothing but numbers, so all of them are 1
      rw [List.append_nil] at h ⊢
      have hbegins := begins_evaluate k xs
      rw [(recovers_factors_iff k xs).1 h] at hbegins
      refine .inr ⟨?_, hbegins⟩
      have hscales := Word.scales_factors (k :: xs)
      rw [← List.map_eq_nil_iff (f := Word.meant), Word.map_rearranged]
      exact Operand.rearranged_eq_nil hscales ((Operand.recovers_numbers hscales).1 h)
    · -- a unit stands behind the numbers
      have hafter : ∀ step ∈ after, step.2.Legible := fun step hstep =>
        hsteps step (by simp [hstep])
      have hlists := lists_factors (hsteps (.times, .atom a) (by simp)) xs hafter k
      rw [(recovers_factors_atom_iff k xs a after).1 h] at hlists
      refine .inl ⟨_, ?_, hlists.spelled⟩
      rw [signed_taken_number, Chain.signed_foldl_taken, Word.rearranged_factors]
    · rw [List.map_append] at h
      exact absurd h (Operand.not_recovers_per (Word.scales_factors _) _)

/-- Where they do not, the symbol has an empty term. -/
theorem broken_of_not_recovers (hw : ∀ step ∈ (Join.times, head) :: steps, step.2.Legible)
    (h : ¬Operand.Recovers (((.times, head) :: steps).map Word.meant)) :
    Expression.Broken
      (Operand.evaluate head.value (steps.map Word.meant)).denomination.symbol := by
  have hsteps := fun step hstep => hw step (List.mem_cons_of_mem _ hstep)
  cases head with
  | atom a =>
    have hnone : ∀ step ∈ ([] : List (Join × Operand)), Operand.scales step = true := nofun
    exact absurd ((Operand.recovers_unit hnone _).2 (.inl (Nat.zero_le 1))) h
  | number k =>
    obtain ⟨xs, rest, rfl, hrest⟩ := Word.exists_factors steps
    rw [← List.cons_append, show (Join.times, Word.number k) :: Word.factors xs =
      Word.factors (k :: xs) from rfl] at h
    rcases hrest with rfl | ⟨a, after, rfl⟩ | ⟨w, after, rfl⟩
    · -- nothing but numbers, of which one is listed
      rw [List.append_nil] at h ⊢
      have hbegins := begins_evaluate k xs
      rw [recovers_factors_iff] at h
      obtain ⟨c, hc⟩ := Option.ne_none_iff_exists'.1 h
      rw [hc] at hbegins
      exact Denomination.Leads.broken hbegins
    · -- a unit stands behind the numbers
      have hafter : ∀ step ∈ after, step.2.Legible := fun step hstep =>
        hsteps step (by simp [hstep])
      have hlists := lists_factors (hsteps (.times, .atom a) (by simp)) xs hafter k
      rw [recovers_factors_atom_iff, Bool.not_eq_false] at h
      rw [h] at hlists
      exact hlists.broken
    · -- the division comes before any unit
      have hopen : ∀ u tail, (Word.factors xs ++ (.per, w) :: after).map Word.meant ≠
          (.times, .unit u) :: tail := by
        cases xs <;> simp [Word.factors, Word.meant, Word.value]
      have hgap := (((Derived.begins_factors xs).gapped w).foldl (after.map Word.meant)).joined
        .times (.number k)
      show Expression.Broken (Operand.evaluate (.number k)
        ((Word.factors xs ++ (.per, w) :: after).map Word.meant)).denomination.symbol
      rw [Operand.evaluate_number k hopen, List.map_append, List.foldl_append, List.map_cons,
        List.foldl_cons, List.foldl_map, List.foldl_map]
      rw [List.foldl_map] at hgap
      exact hgap.broken

end

/-! ## The dimension -/

/-- A number has no exponents, whatever it is read as. -/
theorem Word.vector_operand (w : Word) : w.operand.vector = w.value.vector := by
  cases w with
  | number x => rw [operand, value, Operand.vector, Operand.vector]
  | atom a => rfl

/-- What a symbol that lists the words rearranged is read as has the dimension of what the
expression stands for. -/
theorem Word.dimension_evaluate {head : Word} {steps : List (Join × Word)} {e : Chain Word}
    (he : e.signed = rearranged head steps) :
    (e.map operand).evaluate.denomination.dimension =
      (Operand.evaluate head.value (steps.map meant)).denomination.dimension := by
  rw [← Dimension.vector_inj, Chain.evaluate, Operand.vector_evaluate_signed,
    Operand.vector_evaluate_signed, ← Operand.sum_rearranged head.value, ← map_rearranged, ← he]
  show (((e.map operand).signed).map _).sum = _
  rw [Chain.signed_map, List.map_map, List.map_map]
  refine congrArg List.sum (List.map_congr_left fun step _ => ?_)
  show step.1.sign • step.2.operand.vector = step.1.sign • step.2.value.vector
  rw [vector_operand]

end Metrology
