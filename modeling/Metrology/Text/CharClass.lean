/-!
# Classes of characters

White space and digits of every script, as closed ranges of code points (Unicode 14.0). Two kinds
of white space are told apart: `isBlank` is the property White_Space and is what surrounds a
numeral; `isSpace` also takes the four information separators and is what trimming removes from a
text.
-/

namespace Metrology.Text

/-- Whether a code point lies in one of the closed ranges. -/
def inRanges (ranges : List (Nat × Nat)) (n : Nat) : Bool :=
  ranges.any fun r => r.1 ≤ n && n ≤ r.2

/-- The code points of the property White_Space. -/
def blankRanges : List (Nat × Nat) :=
  [(0x09, 0x0D), (0x20, 0x20), (0x85, 0x85), (0xA0, 0xA0), (0x1680, 0x1680), (0x2000, 0x200A),
   (0x2028, 0x2029), (0x202F, 0x202F), (0x205F, 0x205F), (0x3000, 0x3000)]

/-- White space that may surround a numeral. -/
def isBlank (c : Char) : Bool :=
  inRanges blankRanges c.toNat

/-- White space that trimming removes: blanks and the information separators. -/
def isSpace (c : Char) : Bool :=
  isBlank c || inRanges [(0x1C, 0x1F)] c.toNat

/-- The code points of the digits zero; nine more digits follow each of them. -/
def zeroDigits : List Nat :=
  [0x30, 0x660, 0x6F0, 0x7C0, 0x966, 0x9E6, 0xA66, 0xAE6, 0xB66, 0xBE6, 0xC66, 0xCE6, 0xD66, 0xDE6,
   0xE50, 0xED0, 0xF20, 0x1040, 0x1090, 0x17E0, 0x1810, 0x1946, 0x19D0, 0x1A80, 0x1A90, 0x1B50,
   0x1BB0, 0x1C40, 0x1C50, 0xA620, 0xA8D0, 0xA900, 0xA9D0, 0xA9F0, 0xAA50, 0xABF0, 0xFF10, 0x104A0,
   0x10D30, 0x11066, 0x110F0, 0x11136, 0x111D0, 0x112F0, 0x11450, 0x114D0, 0x11650, 0x116C0,
   0x11730, 0x118E0, 0x11950, 0x11C50, 0x11D50, 0x11DA0, 0x16A60, 0x16AC0, 0x16B50, 0x1D7CE,
   0x1D7D8, 0x1D7E2, 0x1D7EC, 0x1D7F6, 0x1E140, 0x1E2F0, 0x1E950, 0x1FBF0]

/-- The value of a decimal digit of any script. -/
def digit? (c : Char) : Option Nat :=
  let n := c.toNat
  (zeroDigits.find? fun z => z ≤ n && n < z + 10).map (n - ·)

/-- Whether a character is a decimal digit of some script. -/
def isDigit (c : Char) : Bool :=
  (digit? c).isSome

/-- The code points of digits that have no place value: superscripts, subscripts, circled digits and
digits of scripts without a zero. -/
def digitSignRanges : List (Nat × Nat) :=
  [(0xB2, 0xB3), (0xB9, 0xB9), (0x1369, 0x1371), (0x19DA, 0x19DA), (0x2070, 0x2070),
   (0x2074, 0x2079), (0x2080, 0x2089), (0x2460, 0x2468), (0x2474, 0x247C), (0x2488, 0x2490),
   (0x24EA, 0x24EA), (0x24F5, 0x24FD), (0x24FF, 0x24FF), (0x2776, 0x277E), (0x2780, 0x2788),
   (0x278A, 0x2792), (0x10A40, 0x10A43), (0x10E60, 0x10E68), (0x11052, 0x1105A),
   (0x1F100, 0x1F10A)]

/-- Whether a character is a digit, with or without place value. -/
def isDigitSign (c : Char) : Bool :=
  isDigit c || inRanges digitSignRanges c.toNat

/-- A text without the characters of the class at its beginning and at its end. -/
def trim (p : Char → Bool) (s : List Char) : List Char :=
  ((s.dropWhile p).reverse.dropWhile p).reverse

/-- A text without the characters of the class at its end. -/
def trimEnd (p : Char → Bool) (s : List Char) : List Char :=
  (s.reverse.dropWhile p).reverse

/-- Whether nothing but white space is in a text. -/
def isVacant (s : List Char) : Bool :=
  s.all isSpace

end Metrology.Text
