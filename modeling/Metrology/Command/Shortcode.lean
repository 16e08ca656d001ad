import Metrology.Command.Pictographs
import Metrology.Text.Letter

/-!
# Pictographs in texts

A name between colons stands for a pictograph, wherever the program prints it. The endings `-emoji`
and `-text` of a name ask for one in colours and for one in the colour of the text. A name that is
not known stays as it is, with both of its colons.
-/

namespace Metrology.Command

open Text

/-- The endings of names, with the signs that they add to a pictograph. -/
def variantEndings : List (String × Char) :=
  [("-emoji", colourSign), ("-text", '\ufe0e')]

/-- The pictograph of a name; letters of either case are the same. -/
def pictograph? (name : List Char) : Option (List Char) :=
  (pictographs.lookup (String.ofList (name.flatMap small))).map String.toList

/-- What a text between colons stands for. -/
def shortcode? (body : List Char) : Option (List Char) :=
  let variant := variantEndings.findSome? fun (ending, sign) =>
    (dropEnding? ending.toList body).map fun name => (name, sign)
  match variant with
  | some (name, sign) => (pictograph? name).map (· ++ [sign])
  | none => pictograph? body

/-- The text before the first colon, if no white space stands before it. -/
def bodyBeforeColon? : List Char → Option (List Char)
  | [] => none
  | c :: s =>
    if c = ':' then some [] else if isSpace c then none else (bodyBeforeColon? s).map (c :: ·)

/-- A text with the pictographs that it names. -/
def withPictographs : List Char → List Char
  | [] => []
  | c :: s =>
    if c = ':' then
      match bodyBeforeColon? s with
      | some body =>
        (shortcode? body).getD (':' :: body ++ [':']) ++ withPictographs (s.drop (body.length + 1))
      | none => c :: withPictographs s
    else c :: withPictographs s
termination_by s => s.length
decreasing_by all_goals simp only [List.length_drop, List.length_cons]; omega

end Metrology.Command
