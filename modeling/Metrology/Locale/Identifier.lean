import Metrology.Text.Letter
import Metrology.Text.Search

/-!
# Locale identifiers

An identifier names a language, a script, a territory and a variant, in this order and joined by
underscores; all but the language may be left out. Behind an `@` stands a modifier, and behind a
point the name of a character set, which does not count.
-/

namespace Metrology

open Text

/-- The parts of a locale identifier. -/
structure LocaleParts where
  language : String
  script : Option String := none
  territory : Option String := none
  variant : Option String := none
  modifier : Option String := none
deriving DecidableEq

namespace LocaleParts

/-- The parts before the modifier, joined. -/
def tag (p : LocaleParts) : String :=
  joined "_" (p.language :: [p.script, p.territory, p.variant].filterMap id)

/-- The identifier that the parts make. -/
def identifier (p : LocaleParts) : String :=
  match p.modifier with
  | some m => p.tag ++ "@" ++ m
  | none => p.tag

/-- Language and territory alone. -/
def bare (p : LocaleParts) : LocaleParts where
  language := p.language
  territory := p.territory

/-- A text in capital letters. -/
def capitals (s : List Char) : String :=
  String.ofList (s.flatMap capital)

/-- A word with its first letter in upper case and the others in lower case. -/
def titled : List Char → String
  | [] => ""
  | c :: s => String.ofList (capital c ++ s.flatMap small)

/-- The script at the front of the remaining parts: four letters. -/
def takeScript : List (List Char) → Option String × List (List Char)
  | p :: rest =>
    if p.length = 4 && p.all isLetter then (some (titled p), rest) else (none, p :: rest)
  | [] => (none, [])

/-- The territory at the front of the remaining parts: two letters, or three digits. -/
def takeTerritory : List (List Char) → Option String × List (List Char)
  | p :: rest =>
    if p.length = 2 && p.all isLetter then (some (capitals p), rest)
    else if p.length = 3 && p.all isDigitSign then (some (String.ofList p), rest)
    else (none, p :: rest)
  | [] => (none, [])

/-- Whether a part has the form of a variant: four characters, the first a digit, or at least five,
the first a letter. -/
def isVariant : List Char → Bool
  | [] => false
  | c :: s => (s.length = 3 && isDigitSign c) || (4 ≤ s.length && isLetter c)

/-- The variant: the last of the remaining parts, if the first has the form of one. -/
def takeVariant (parts : List (List Char)) : Option String × List (List Char) :=
  match parts, parts.getLast? with
  | p :: _, some last =>
    if isVariant p then (some (capitals last), parts.dropLast) else (none, parts)
  | _, _ => (none, parts)

/-- The parts that are given one after another, with a modifier; `none` where the language is not
made of letters, or a part has no place. -/
def ofPieces? (modifier : List Char) : List (List Char) → Option LocaleParts
  | [] => none
  | language :: rest =>
    let language := language.flatMap small
    if language.isEmpty || !language.all isLetter then none
    else
      let (script, rest) := takeScript rest
      let (territory, rest) := takeTerritory rest
      let (variant, rest) := takeVariant rest
      let modifier := if modifier.isEmpty then none else some (String.ofList modifier)
      if rest.isEmpty then
        some { language := String.ofList language, script, territory, variant, modifier }
      else none

/-- The parts of an identifier; `none` where it is not well formed. -/
def parse? (identifier : String) : Option LocaleParts :=
  let s := identifier.toList
  let (s, modifier) := (cutFirst? '@' s).getD (s, [])
  let s := ((cutFirst? '.' s).map (·.1)).getD s
  ofPieces? modifier (pieces '_' s)

end LocaleParts

end Metrology
