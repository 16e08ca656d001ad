import Metrology.Command.Shortcode
import Metrology.Command.Style

/-!
# Markup

What the program prints may hold tags in square brackets that open and close styles. Printed without
styles, a text is what stands between its tags; a tag behind a backslash is text. A tag that closes
a style which is not open makes the text unprintable.
-/

namespace Metrology.Command

open Text

/-- A piece of a text with tags. -/
inductive Piece where
  /-- Text between tags. -/
  | plain (s : List Char)
  /-- Text that stands by itself: a tag behind a backslash, and the backslashes before tags. -/
  | escaped (s : List Char)
  | tag (body : List Char)
deriving DecidableEq

/-- Pieces with some more text in front. -/
def Piece.onto (s : List Char) : List Piece → List Piece
  | .plain t :: rest => .plain (s ++ t) :: rest
  | rest => .plain s :: rest

/-- Whether the body of a tag can begin with a character. -/
def opensTag (c : Char) : Bool :=
  ('a' ≤ c && c ≤ 'z') || c = '#' || c = '/' || c = '@'

/-- The text before the first closing bracket, if no opening bracket stands before it. -/
def bodyUpTo? : List Char → Option (List Char)
  | [] => none
  | c :: s =>
    if c = ']' then some [] else if c = '[' then none else (bodyUpTo? s).map (c :: ·)

/-- The body of the tag whose opening bracket stands before a text. -/
def tagBody? : List Char → Option (List Char)
  | c :: s => if opensTag c then (bodyUpTo? s).map (c :: ·) else none
  | [] => none

/-- Some backslashes. -/
def backslashes (n : Nat) : List Char := List.replicate n '\\'

/-- The pieces of a tag behind backslashes. Two backslashes stand for one, and one that is left over
makes the tag text. -/
def tagPieces (slashes : Nat) (body : List Char) : List Piece :=
  let before := if slashes < 2 then [] else [.escaped (backslashes (slashes / 2))]
  before ++ [if slashes % 2 = 1 then .escaped ('[' :: body ++ [']']) else .tag body]

/-- The pieces of a text behind some backslashes. A backslash before a bracket that begins no tag is
left out. -/
def piecesFrom (slashes : Nat) : List Char → List Piece
  | [] => Piece.onto (backslashes slashes) []
  | c :: s =>
    if c = '\\' then piecesFrom (slashes + 1) s
    else if c = '[' then
      match tagBody? s with
      | some body => tagPieces slashes body ++ piecesFrom 0 (s.drop (body.length + 1))
      | none => Piece.onto (backslashes (slashes - 1) ++ ['[']) (piecesFrom 0 s)
    else Piece.onto (backslashes slashes ++ [c]) (piecesFrom 0 s)
termination_by s => s.length
decreasing_by all_goals simp only [List.length_drop, List.length_cons]; omega

/-- The name of a style in a tag: what stands before an equals sign. -/
def styleName (body : List Char) : List Char :=
  match cutFirst? '=' body with
  | some (name, _) => name
  | none => body

/-- The open styles, the innermost first, after a tag; `none` where it closes a style that is not
open. A tag of a slash alone closes the innermost. -/
def stylesAfter (styles : List StyleName) (body : List Char) : Option (List StyleName) :=
  match styleName body with
  | '/' :: name =>
    if (trim isSpace name).isEmpty then styles.tail?
    else
      let closed := StyleName.ofChars name
      if styles.contains closed then some (styles.erase closed) else none
  | name => some (StyleName.ofChars name :: styles)

/-- What stands between tags, given the open styles, with the pictographs that it names. -/
def plainFrom : List StyleName → List Piece → Option (List Char)
  | _, [] => some []
  | styles, .plain s :: rest => (plainFrom styles rest).map (withPictographs s ++ ·)
  | styles, .escaped s :: rest => (plainFrom styles rest).map (withPictographs s ++ ·)
  | styles, .tag body :: rest => (stylesAfter styles body).bind fun styles => plainFrom styles rest

/-- A text without its tags; `none` where a tag closes a style that is not open. -/
def plainText? (s : String) : Option String :=
  (plainFrom [] (piecesFrom 0 s.toList)).map String.ofList

end Metrology.Command
