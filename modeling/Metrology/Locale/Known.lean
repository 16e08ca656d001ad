import Metrology.Locale.Data

/-!
# Finding locales

A locale is found by an identifier. One that is not known as it stands is completed: older codes are
replaced, and script and territory are those that the identifier or its language most likely means.
-/

namespace Metrology

open Text

/-- Why a text names no locale. -/
inductive LocaleFault where
  /-- It does not have the form of an identifier. -/
  | malformed
  /-- No locale has this identifier. -/
  | unknown
deriving DecidableEq, Repr

/-- The parts with the present codes of language and territory. The codes for an unknown territory
and an unknown script stand for none. -/
def LocaleParts.current (p : LocaleParts) : LocaleParts :=
  { p with
    language := (Locale.languageAliases.lookup p.language).getD p.language
    territory := (p.territory.map fun t => (Locale.territoryAliases.lookup t).getD t).filter
      (· ≠ "ZZ")
    script := p.script.filter (· ≠ "Zzzz") }

namespace Locale

/-- The symbols that are kept under a name: under the name in full, under what stands behind its
last slash, or under the name without white space around it. -/
def symbols? (name : String) : Option Symbols :=
  let s := name.toList
  let last := ((cutLast? '/' s).map (·.2)).getD s
  (known.lookup (String.ofList last)).or (known.lookup (String.ofList (trim isSpace s)))

/-- The locale with exactly these parts; a modifier need not be known. -/
def ofParts? (p : LocaleParts) : Option Locale :=
  ((symbols? p.identifier).or (symbols? p.tag)).map fun symbols => ⟨p.identifier, symbols⟩

/-- The parts that an identifier may stand for, the first that are known being meant: those that it
has; what it most likely means as a whole; and its own territory with what its language most likely
means. Of the latter two, language and territory alone will do. -/
def candidates (p : LocaleParts) : List LocaleParts :=
  let current := p.current
  let whole := likely.lookup current.identifier
  let ofLanguage := (likely.lookup current.language).map fun l =>
    { l with territory := current.territory }
  p :: (whole.toList ++ ofLanguage.toList).flatMap fun l => [l, l.bare]

/-- The locale that an identifier names. -/
def parse? (identifier : String) : Except LocaleFault Locale :=
  match LocaleParts.parse? identifier with
  | none => .error .malformed
  | some p =>
    match (candidates p).findSome? ofParts? with
    | some l => .ok l
    | none => .error .unknown

end Locale

end Metrology
