import Metrology.Proofs.Expression.Reading
import Metrology.Session.Standard

/-!
# Powers of the longest known base

A text with powers behind it has several bases: itself, what is left when the last power is taken
off, what is left then, and so on (`Raised`). A term stands for the longest of them that is
registered, raised by the powers behind it from left to right (`resolveTerm_outcome`); if none of
them is, the shortest is reported. A registered symbol may hold carets, so the longest base need not
be the one in front of the first caret.
-/

namespace Metrology

open Session Text

/-- A whole power of a unit. -/
def Derived.pow (u : Derived) (n : Int) : Derived :=
  .fresh (u.denomination.pow n)

/-- Powers of powers multiply the exponents of the dimension by all of them. -/
theorem Derived.vector_foldl_pow (u : Derived) (ns : List Int) :
    (ns.foldl Derived.pow u).denomination.dimension.vector =
      ns.prod • u.denomination.dimension.vector := by
  induction ns generalizing u with
  | nil => simp
  | cons n ns ih =>
    have hpow : (u.pow n).denomination.dimension.vector =
        n • u.denomination.dimension.vector := Dimension.vector_pow _ n
    rw [List.foldl_cons, ih, hpow, smul_smul, List.prod_cons, Int.mul_comm]

namespace Expression

variable {r : Registry} {text base rest core : List Char} {m : Measure} {u : Derived} {n : Int}
  {ns : List Int}

/-- The text is a base with whole powers behind it, from left to right. -/
inductive Raised : List Char → List Int → List Char → Prop
  | self {text : List Char} : Raised text [] text
  | power {text rest base : List Char} {n : Int} {ns : List Int} (h : Suffixed rest n text)
      (hrest : Raised base ns rest) : Raised base (ns ++ [n]) text

/-- A text without its power suffix is shorter. -/
theorem Suffixed.length_lt (h : Suffixed base n text) : base.length < text.length := by
  obtain ⟨digits, rfl, -⟩ := h
  simp

/-- A base is no longer than the text it is the base of. -/
theorem Raised.length_le (h : Raised base ns text) : base.length ≤ text.length := by
  induction h with
  | self => rfl
  | power hs _ ih => exact ih.trans hs.length_lt.le

/-- Any other base of a text is a base of what is left when the last power is taken off. -/
theorem Raised.of_suffixed (h : Raised base ns text) (hs : Suffixed rest n text) :
    base = text ∨ ∃ ms, Raised base ms rest := by
  cases h with
  | self => exact .inl rfl
  | power hs' hrest =>
    obtain ⟨rfl, rfl⟩ := hs'.unique hs
    exact .inr ⟨_, hrest⟩

/-! ## The shortest base -/

/-- The base is reached by taking off powers, and no other base is shorter. -/
structure IsShortestBase (text core : List Char) : Prop where
  raised : ∃ ns, Raised core ns text
  shortest : ∀ base ns, Raised base ns text → core.length ≤ base.length

/-- The shortest base is left when all the powers are taken off. -/
theorem Stripped.isShortestBase (h : Stripped text core) : IsShortestBase text core := by
  induction h with
  | done hnone =>
    refine ⟨⟨[], .self⟩, fun base ns hbase => ?_⟩
    cases hbase with
    | self => rfl
    | power hs _ => exact absurd hs (hnone _ _)
  | power hs _ ih =>
    obtain ⟨ns, hcore⟩ := ih.raised
    refine ⟨⟨_, .power hs hcore⟩, fun base ms hbase => ?_⟩
    rcases hbase.of_suffixed hs with rfl | ⟨ks, hrest⟩
    · exact hcore.length_le.trans hs.length_lt.le
    · exact ih.shortest base ks hrest

/-! ## The longest known base -/

/-- The base is registered and no longer base of the text is. -/
structure IsLongestKnown (r : Registry) (text base : List Char) (ns : List Int) (m : Measure) :
    Prop where
  raised : Raised base ns text
  known : r.known? base = some m
  longest : ∀ longer ms, Raised longer ms text → base.length < longer.length →
    r.known? longer = none

/-- A text that the registry knows is its own longest base. -/
theorem IsLongestKnown.of_known (h : r.known? text = some m) : IsLongestKnown r text text [] m :=
  ⟨.self, h, fun _ _ hlonger hlt => absurd hlonger.length_le (Nat.not_le.2 hlt)⟩

/-- The longest known base stays so behind one more power, if the text itself is unknown. -/
theorem IsLongestKnown.power (h : r.known? text = none) (hs : Suffixed rest n text)
    (hrest : IsLongestKnown r rest base ns m) : IsLongestKnown r text base (ns ++ [n]) m := by
  refine ⟨.power hs hrest.raised, hrest.known, fun longer ms hlonger hlt => ?_⟩
  rcases hlonger.of_suffixed hs with rfl | ⟨ks, hks⟩
  · exact h
  · exact hrest.longest longer ks hks hlt

/-- If a base of a text is registered, one of its bases is the longest that is. -/
theorem Raised.exists_isLongestKnown (h : Raised base ns text) (hm : r.known? base = some m) :
    ∃ p ms k, IsLongestKnown r text p ms k := by
  induction h with
  | self => exact ⟨_, _, _, .of_known hm⟩
  | @power text rest base n ns hs _ ih =>
    cases htext : r.known? text with
    | some k => exact ⟨_, _, _, .of_known htext⟩
    | none =>
      obtain ⟨p, ms, k, hp⟩ := ih hm
      exact ⟨p, _, k, .power htext hs hp⟩

/-- The longest known base with its powers is what the text stands for. -/
theorem IsLongestKnown.stands (h : IsLongestKnown r text base ns m) :
    Stands r text (ns.foldl Derived.pow (.known m)) := by
  obtain ⟨hraised, hm, hlongest⟩ := h
  induction hraised with
  | self => exact .known hm
  | power hs hrest ih =>
    have htext := hlongest _ _ .self (hrest.length_le.trans_lt hs.length_lt)
    have hbase := ih hm fun longer ms hlonger => hlongest longer _ (.power hs hlonger)
    rw [List.foldl_append]
    exact .power htext hs hbase

/-- What a text stands for comes from its longest known base, raised to the powers behind it. -/
theorem Stands.exists_isLongestKnown (h : Stands r text u) :
    ∃ base ns m, IsLongestKnown r text base ns m ∧ u = ns.foldl Derived.pow (.known m) := by
  induction h with
  | known hm => exact ⟨_, _, _, .of_known hm, rfl⟩
  | power htext hs _ ih =>
    obtain ⟨base, ns, m, hbase, rfl⟩ := ih
    exact ⟨base, _, m, .power htext hs hbase, by rw [List.foldl_append]; rfl⟩

/-- A text stands for one unit at most. -/
theorem Stands.unique {v : Derived} (h : Stands r text u) (h' : Stands r text v) : u = v := by
  induction h generalizing v with
  | known hm =>
    cases h' with
    | known hm' => rw [Option.some_inj.1 (hm.symm.trans hm')]
    | power hnone => cases hm.symm.trans hnone
  | power hnone hs _ ih =>
    cases h' with
    | known hm => cases hm.symm.trans hnone
    | power _ hs' hbase =>
      obtain ⟨rfl, rfl⟩ := hs.unique hs'
      rw [ih hbase]

end Expression

namespace Session

open Expression

/-- How a term is looked up with a registry that has no resolvers, whatever the term is. If one of
its bases is registered, the longest that is gives the unit, raised by the powers behind it from
left to right; if none is, the shortest is reported. Nothing is registered in either case. -/
theorem resolveTerm_outcome (s : Session) (id : Nat) (r : Registry) (text : List Char)
    (hr : s.registries[id]? = some r) (hresolvers : r.resolvers = []) :
    ((∃ base ns m, Raised base ns text ∧ r.known? base = some m) →
      ∃ base ns m, IsLongestKnown r text base ns m) ∧
    (∀ base ns m, IsLongestKnown r text base ns m →
      ∃ t, (resolveTerm id text).run s = .ok (ns.foldl Derived.pow (.known m)) t ∧
        (ns.foldl Derived.pow (.known m)).denomination.dimension.vector =
          ns.prod • m.dimension.vector ∧
        t.registries = s.registries) ∧
    ((∀ base ns, Raised base ns text → r.known? base = none) →
      ∃ core t, IsShortestBase text core ∧
        (resolveTerm id text).run s = .error (.unknownUnit .expression (String.ofList core)) t ∧
        t.registries = s.registries) := by
  have hconsults : s.Consults (some id) id r := ⟨.inl rfl, registryAt_of_getElem? hr, hresolvers⟩
  refine ⟨fun ⟨base, ns, m, hbase, hm⟩ => hbase.exists_isLongestKnown hm, ?_, ?_⟩
  · intro base ns m hbase
    -- what the text stands for is what its longest known base does
    rcases finds_resolveTerm hconsults text with
      ⟨u, t, hrun, hu, hst⟩ | ⟨core, t, -, ⟨hnone, -⟩, -⟩
    · rw [hu.unique hbase.stands] at hrun
      exact ⟨t, hrun, Derived.vector_foldl_pow (.known m) ns, hst.registries⟩
    · exact absurd hbase.stands (hnone _)
  · intro hunknown
    rcases finds_resolveTerm hconsults text with
      ⟨u, t, -, hu, -⟩ | ⟨core, t, hrun, ⟨-, hcore⟩, hst⟩
    -- had the text a meaning, one of its bases would be known
    · obtain ⟨base, ns, m, hbase, -⟩ := hu.exists_isLongestKnown
      cases hbase.known.symm.trans (hunknown base ns hbase.raised)
    · exact ⟨core, t, hcore.isShortestBase, hrun, hst.registries⟩

/-- With meters registered, `m^2^-3` stands for a power of a power. -/
theorem resolveTerm_outcome_power_of_power :
    ∃ u t, (resolveTerm 0 "m^2^-3".toList).run
        (play [.create "units", .register 0 (.unit Catalog.meter)] (start true [])) = .ok u t ∧
      u.denomination.dimension.vector = (-6 : ℤ) • Catalog.meter.dimension.vector := by
  have hread := (resolveTerm_outcome (play [.create "units", .register 0 (.unit Catalog.meter)]
    (start true [])) 0 _ "m^2^-3".toList rfl rfl).2.1
  have hsquare : Suffixed "m".toList 2 "m^2".toList := ⟨['2'], by decide⟩
  have hinverse : Suffixed "m^2".toList (-3) "m^2^-3".toList := ⟨['-', '3'], by decide⟩
  obtain ⟨t, hrun, hvector, -⟩ := hread _ _ Catalog.meter
    (.power rfl hinverse (.power rfl hsquare (.of_known rfl)))
  exact ⟨_, t, hrun, hvector⟩

end Session

end Metrology
