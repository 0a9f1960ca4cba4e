import Narrative.Decimal.Shortest
import Narrative.Json.Basic

/-!
# Writing a value

The compact text of a value: no space between tokens, and an escape only for the quote, the
backslash and the characters below the space.
-/

namespace Narrative.Json

/-- The escape of a character in a string, or the character itself. -/
def escapeChar (c : Char) : String :=
  if c = '"' then "\\\""
  else if c = '\\' then "\\\\"
  else if c = '\x08' then "\\b"
  else if c = '\x0c' then "\\f"
  else if c = '\n' then "\\n"
  else if c = '\r' then "\\r"
  else if c = '\t' then "\\t"
  else if c < ' ' then "\\u00" ++ (if c.toNat < 16 then "0" else "") ++ Text.hex c.toNat
  else String.singleton c

/-- A string between quotes. -/
def writeString (s : String) : String :=
  "\"" ++ String.join (s.toList.map escapeChar) ++ "\""

/-- A number in decimal. -/
def Number.write : Number → String
  | .natural n => Text.decimal n
  | .negative n => "-" ++ Text.decimal n
  | .real x => Decimal.text x

mutual

/-- The compact text of a value. -/
def write : Json → String
  | .null => "null"
  | .bool b => if b then "true" else "false"
  | .number n => n.write
  | .string s => writeString s
  | .list items => "[" ++ ",".intercalate (writeItems items) ++ "]"
  | .object members => "\x7b" ++ ",".intercalate (writeMembers members) ++ "\x7d"

def writeItems : List Json → List String
  | [] => []
  | j :: js => write j :: writeItems js

def writeMembers : List (String × Json) → List String
  | [] => []
  | (name, j) :: ms => (writeString name ++ ":" ++ write j) :: writeMembers ms

end

end Narrative.Json
