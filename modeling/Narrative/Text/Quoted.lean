import Narrative.Text.Combining
import Narrative.Text.Numeral
import Narrative.Text.Printable

/-!
# Quoted text

A text between double quotes, with an escape for each character that a reader could not make out.
-/

namespace Narrative.Text

/-- The escape of a character, or the character itself where it stands for itself. -/
def escape (c : Char) : String :=
  if c = '\u0000' then "\\0"
  else if c = '\t' then "\\t"
  else if c = '\r' then "\\r"
  else if c = '\n' then "\\n"
  else if c = '"' then "\\\""
  else if c = '\\' then "\\\\"
  else if isPrintable c && !isCombining c then String.singleton c
  else "\\u\x7b" ++ hex c.toNat ++ "\x7d"

/-- The text between quotes, each character escaped. -/
def quoted (s : String) : String :=
  "\"" ++ String.join (s.toList.map escape) ++ "\""

end Narrative.Text
