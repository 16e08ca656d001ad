import Metrology.Report.Basic

/-!
# Reports as JSON

A report as a JSON object over several lines, in ASCII. A character outside of the printable part of
ASCII is written by its code in UTF-16, one or two groups of four hexadecimal digits.
-/

namespace Metrology

open Text

namespace Json

/-- A group of four hexadecimal digits. -/
def unicodeEscape (n : Nat) : List Char :=
  '\\' :: 'u' :: hexadecimal 4 n

/-- A character by its code in UTF-16. -/
def escapeCode (c : Char) : List Char :=
  let n := c.toNat
  if n < 0x10000 then unicodeEscape n
  else
    let m := n - 0x10000
    unicodeEscape (0xd800 + m / 0x400) ++ unicodeEscape (0xdc00 + m % 0x400)

/-- A character inside a JSON text. -/
def escape (c : Char) : List Char :=
  match c with
  | '"' => ['\\', '"']
  | '\\' => ['\\', '\\']
  | '\n' => ['\\', 'n']
  | '\r' => ['\\', 'r']
  | '\t' => ['\\', 't']
  | '\x08' => ['\\', 'b']
  | '\x0c' => ['\\', 'f']
  | c => if ' ' ≤ c && c ≤ '~' then [c] else escapeCode c

/-- A JSON text. -/
def text (s : String) : String :=
  "\"" ++ String.ofList (s.toList.flatMap escape) ++ "\""

/-- A JSON object over several lines; `margin` stands before its closing brace. -/
def object (margin : String) (members : List (String × String)) : String :=
  if members.isEmpty then "\x7b\x7d"
  else
    let lines := members.map fun (name, value) => s!"{margin}  {text name}: {value}"
    "\x7b\n" ++ joined ",\n" lines ++ "\n" ++ margin ++ "\x7d"

end Json

/-- A detail as JSON. -/
def Detail.json : Detail → String
  | .text s => Json.text s
  | .whole n => toString n

namespace Report

/-- The names of the parts of a report, in alphabetical order. -/
def partNames : List String :=
  ["context", "error_code", "error_type", "message", "timestamp"]

/-- A report as JSON, with the time at which it was made. -/
def json (r : Report) (time : String) : String :=
  Json.object ""
    [("error_type", Json.text r.kind.name),
     ("error_code", Json.text r.code),
     ("message", Json.text r.message),
     ("context", Json.object "  " (r.details.entries.map fun (name, d) => (name, d.json))),
     ("timestamp", Json.text time)]

end Report

end Metrology
