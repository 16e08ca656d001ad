import Metrology.Text.Letter
import Metrology.Text.Search
import Metrology.Text.Whole

/-!
# Styles

A style is named by words: attributes, a colour, a colour behind `on` for the background, and a
link. Two names are the same style if they say the same in another order or with other words; a name
that is no list of such words stands for itself.
-/

namespace Metrology.Command

open Text

/-- How a text is shown. -/
structure Style where
  attributes : List (String × Bool) := []
  colour : Option String := none
  background : Option String := none
  link : Option String := none
deriving DecidableEq

/-- What a tag names: a style, or something else by its text. -/
inductive StyleName where
  | style (s : Style)
  | other (name : String)
deriving DecidableEq

/-- The attributes of styles in their order. -/
def attributeOrder : List String :=
  ["bold", "dim", "italic", "underline", "blink", "blink2", "reverse", "conceal", "strike",
   "underline2", "frame", "encircle", "overline"]

/-- The short names of attributes. -/
def attributeAliases : List (String × String) :=
  [("b", "bold"), ("d", "dim"), ("i", "italic"), ("u", "underline"), ("r", "reverse"),
   ("c", "conceal"), ("s", "strike"), ("uu", "underline2"), ("o", "overline")]

/-- The attribute that a word names. -/
def attribute? (word : String) : Option String :=
  if attributeOrder.contains word then some word else attributeAliases.lookup word

/-- The names of colours. -/
def colourNames : List String :=
  ["default aquamarine1 aquamarine3 black blue blue1 blue3 blue_violet bright_black bright_blue",
   "bright_cyan bright_green bright_magenta bright_red bright_white bright_yellow cadet_blue",
   "chartreuse1 chartreuse2 chartreuse3 chartreuse4 cornflower_blue cornsilk1 cyan cyan1 cyan2",
   "cyan3 dark_blue dark_cyan dark_goldenrod dark_green dark_khaki dark_magenta dark_olive_green1",
   "dark_olive_green2 dark_olive_green3 dark_orange dark_orange3 dark_red dark_sea_green",
   "dark_sea_green1 dark_sea_green2 dark_sea_green3 dark_sea_green4 dark_slate_gray1",
   "dark_slate_gray2 dark_slate_gray3 dark_turquoise dark_violet deep_pink1 deep_pink2 deep_pink3",
   "deep_pink4 deep_sky_blue1 deep_sky_blue2 deep_sky_blue3 deep_sky_blue4 dodger_blue1",
   "dodger_blue2 dodger_blue3 gold1 gold3 gray0 gray100 gray11 gray15 gray19 gray23 gray27 gray3",
   "gray30 gray35 gray37 gray39 gray42 gray46 gray50 gray53 gray54 gray58 gray62 gray63 gray66",
   "gray69 gray7 gray70 gray74 gray78 gray82 gray84 gray85 gray89 gray93 green green1 green3",
   "green4 green_yellow grey0 grey100 grey11 grey15 grey19 grey23 grey27 grey3 grey30 grey35",
   "grey37 grey39 grey42 grey46 grey50 grey53 grey54 grey58 grey62 grey63 grey66 grey69 grey7",
   "grey70 grey74 grey78 grey82 grey84 grey85 grey89 grey93 honeydew2 hot_pink hot_pink2 hot_pink3",
   "indian_red indian_red1 khaki1 khaki3 light_coral light_cyan1 light_cyan3 light_goldenrod1",
   "light_goldenrod2 light_goldenrod3 light_green light_pink1 light_pink3 light_pink4",
   "light_salmon1 light_salmon3 light_sea_green light_sky_blue1 light_sky_blue3 light_slate_blue",
   "light_slate_gray light_slate_grey light_steel_blue light_steel_blue1 light_steel_blue3",
   "light_yellow3 magenta magenta1 magenta2 magenta3 medium_orchid medium_orchid1 medium_orchid3",
   "medium_purple medium_purple1 medium_purple2 medium_purple3 medium_purple4 medium_spring_green",
   "medium_turquoise medium_violet_red misty_rose1 misty_rose3 navajo_white1 navajo_white3",
   "navy_blue orange1 orange3 orange4 orange_red1 orchid orchid1 orchid2 pale_green1 pale_green3",
   "pale_turquoise1 pale_turquoise4 pale_violet_red1 pink1 pink3 plum1 plum2 plum3 plum4 purple",
   "purple3 purple4 red red1 red3 rosy_brown royal_blue1 salmon1 sandy_brown sea_green1 sea_green2",
   "sea_green3 sky_blue1 sky_blue2 sky_blue3 slate_blue1 slate_blue3 spring_green1 spring_green2",
   "spring_green3 spring_green4 steel_blue steel_blue1 steel_blue3 tan thistle1 thistle3",
   "turquoise2 turquoise4 violet wheat1 wheat4 white yellow yellow1 yellow2 yellow3 yellow4"]

/-- Whether a name in a list of texts of names is the given one. -/
def isNamed (lines : List String) (name : String) : Bool :=
  lines.any fun line => (pieces ' ' line.toList).contains name.toList

/-- Whether a numeral stands for a number of at most 255. -/
def isByte (s : List Char) : Bool :=
  match whole? s with
  | some n => 0 ≤ n && n ≤ 255
  | none => false

/-- What stands between a text and a closing bracket. -/
def argument? (start : String) (s : List Char) : Option (List Char) :=
  (dropStart? start.toList s).bind (dropEnding? [')'])

/-- Whether a word in small letters is a colour: a name, six hexadecimal digits, a number, or the
parts of red, green and blue. -/
def isColour (word : String) : Bool :=
  let s := word.toList
  let isHex (c : Char) : Bool := c.isDigit || ('a' ≤ c && c ≤ 'f')
  isNamed colourNames word
    || (match s with
      | '#' :: digits => digits.length = 6 && digits.all isHex
      | _ => false)
    || (match argument? "color(" s with
      | some n => n.length ≤ 3 && n.all Char.isDigit && isByte n
      | none => false)
    || (match argument? "rgb(" s with
      | some parts =>
        let parts := pieces ',' parts
        parts.length = 3 && parts.all fun p => p.all isDigit && isByte p
      | none => false)

/-- The words of a text. -/
def plainWords (s : List Char) : List String :=
  ((pieces ' ' (s.map fun c => if isSpace c then ' ' else c)).filter fun w => !w.isEmpty).map
    String.ofList

/-- A word in small letters. -/
def smallWord (word : String) : String :=
  String.ofList (word.toList.flatMap small)

namespace Style

/-- A style with an attribute set. -/
def withAttribute (s : Style) (name : String) (value : Bool) : Style :=
  let value? (a : String) : Option Bool :=
    if a = name then some value else s.attributes.lookup a
  { s with attributes := attributeOrder.filterMap fun a => (value? a).map fun v => (a, v) }

/-- A style with what some words say, the later ones counting; `none` where a word says nothing. -/
def read? (s : Style) : List String → Option Style
  | [] => some s
  | [word] =>
    let word := smallWord word
    match attribute? word with
    | some a => some (s.withAttribute a true)
    | none => if isColour word then some { s with colour := some word } else none
  | word :: next :: rest =>
    match smallWord word with
    | "on" =>
      let colour := smallWord next
      if isColour colour then read? { s with background := some colour } rest else none
    | "not" => (attribute? next).bind fun a => read? (s.withAttribute a false) rest
    | "link" => read? { s with link := some next } rest
    | word =>
      match attribute? word with
      | some a => read? (s.withAttribute a true) (next :: rest)
      | none =>
        if isColour word then read? { s with colour := some word } (next :: rest) else none

end Style

/-- What a text names. -/
def StyleName.ofChars (s : List Char) : StyleName :=
  let name := trim isSpace s
  if name = "none".toList then .style {}
  else
    match Style.read? {} (plainWords name) with
    | some s => .style s
    | none => .other (smallWord (String.ofList name))

end Metrology.Command
