/-!
# Finding and replacing inside a text

Functions on lists of characters: cutting at the first or the last occurrence of a mark, and
replacing every occurrence of a pattern, scanned from the left and without overlap.
-/

namespace Metrology.Text

/-- The parts before and after the first occurrence of `mark`, or `none` where it does not occur. -/
def cutFirst? (mark : Char) : List Char → Option (List Char × List Char)
  | [] => none
  | c :: s =>
    if c = mark then some ([], s)
    else (cutFirst? mark s).map fun (before, after) => (c :: before, after)

/-- The parts before and after the last occurrence of `mark`, or `none` where it does not occur. -/
def cutLast? (mark : Char) : List Char → Option (List Char × List Char)
  | [] => none
  | c :: s =>
    match cutLast? mark s with
    | some (before, after) => some (c :: before, after)
    | none => if c = mark then some ([], s) else none

/-- What is left of a text that begins with `start`. -/
def dropStart? : List Char → List Char → Option (List Char)
  | [], s => some s
  | _ :: _, [] => none
  | p :: start, c :: s => if p = c then dropStart? start s else none

/-- The text before a given ending. -/
def dropEnding? (ending s : List Char) : Option (List Char) :=
  (dropStart? ending.reverse s.reverse).map List.reverse

/-- One scan of the text; `skip` counts the characters of the last occurrence still to be passed. -/
def replaceFrom (pattern replacement : List Char) : Nat → List Char → List Char
  | _, [] => []
  | skip + 1, _ :: s => replaceFrom pattern replacement skip s
  | 0, c :: s =>
    match pattern with
    | [] => c :: replaceFrom pattern replacement 0 s
    | _ :: rest =>
      if (dropStart? pattern (c :: s)).isSome then
        replacement ++ replaceFrom pattern replacement rest.length s
      else c :: replaceFrom pattern replacement 0 s

/-- Every occurrence of `pattern` replaced, from the left and without overlap. The empty pattern
occurs nowhere. -/
def replaceAll (pattern replacement s : List Char) : List Char :=
  replaceFrom pattern replacement 0 s

/-- The pieces between the occurrences of `mark`: one more than there are marks. -/
def pieces (mark : Char) : List Char → List (List Char)
  | [] => [[]]
  | c :: s =>
    if c = mark then [] :: pieces mark s
    else match pieces mark s with
      | piece :: rest => (c :: piece) :: rest
      | [] => [[c]]

/-- A text filled up on the left with a character to a width. -/
def padLeft (c : Char) (width : Nat) (s : List Char) : List Char :=
  List.replicate (width - s.length) c ++ s

/-- The texts one after another with a separator between neighbours. -/
def joined (separator : String) (texts : List String) : String :=
  separator.intercalate texts

end Metrology.Text
