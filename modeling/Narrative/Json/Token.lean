import Narrative.Json.Number

/-!
# Strings in a text

A string is read up to its closing quote, its escapes resolved.  Passing over a string checks less:
any four hexadecimal digits make an escape.
-/

namespace Narrative.Json.Scan

/-- Takes four hexadecimal digits. -/
def hexUnit : Scan Nat := fun _ s =>
  let four := s.take 4
  if four.length < 4 then .error ⟨.endInString, []⟩
  else
    let unit := four.foldl
      (fun n b => n.bind fun n => (Text.hexDigit? (Char.ofUInt8 b)).map (n * 16 + ·)) (some 0)
    match unit with
    | none => .error ⟨.invalidEscape, s.drop 4⟩
    | some n => .ok (n, s.drop 4)

/-- Takes one character of an escape that has to go on with it. -/
def escapeLetter (c : Char) : Scan Unit := do
  match ← next with
  | none => refuse .endInString
  | some d => if d = c then pure () else refuse .endOfHexEscape

/-- Takes a character that is written as one UTF-16 unit or, outside the basic plane, as two. -/
def hexCharacter : Scan Char := do
  let high ← hexUnit
  if 0xDC00 ≤ high ∧ high ≤ 0xDFFF then refuse .loneSurrogate
  else if 0xD800 ≤ high ∧ high ≤ 0xDBFF then
    escapeLetter '\\'
    escapeLetter 'u'
    let low ← hexUnit
    if 0xDC00 ≤ low ∧ low ≤ 0xDFFF then
      return Char.ofNat (0x10000 + (high - 0xD800) * 0x400 + (low - 0xDC00))
    else refuse .loneSurrogate
  else return Char.ofNat high

/-- The character that a letter behind a backslash stands for. -/
def escaped? : Char → Option Char
  | '"' => some '"'
  | '\\' => some '\\'
  | '/' => some '/'
  | 'b' => some '\x08'
  | 'f' => some '\x0c'
  | 'n' => some '\n'
  | 'r' => some '\r'
  | 't' => some '\t'
  | _ => none

/-- Takes an escape behind its backslash; `hex` takes what follows `\u`. -/
def escape (hex : Scan Char) : Scan Char := do
  match ← next with
  | none => refuse .endInString
  | some 'u' => hex
  | some c =>
    match escaped? c with
    | some d => pure d
    | none => refuse .invalidEscape

/-- The text of some bytes.  What stands between the quotes of a string is text whenever the whole
is, as both quotes are single bytes. -/
def textOf (bytes : Bytes) : String :=
  (String.fromUTF8? ⟨bytes.toArray⟩).getD ""

/-- Takes a string behind its opening quote. -/
def string : Scan String :=
  loop (fun taken => do
    match ← nextByte with
    | none => refuse .endInString
    | some 34 => return .done (textOf taken.reverse)
    | some 92 => return .again ((String.utf8EncodeChar (← escape hexCharacter)).reverse ++ taken)
    | some b => if b < 32 then refuse .controlCharacter else return .again (b :: taken))
    ([] : Bytes)

/-- Passes over a string behind its opening quote.  A control character is refused before it is
taken. -/
def skipString : Scan Unit :=
  loop (fun _ => do
    match ← peek with
    | none => refuse .endInString
    | some '"' => skip; return .done ()
    | some '\\' =>
      skip
      let _ ← escape (do let _ ← hexUnit; pure ' ')
      return .again ()
    | some c => if c < ' ' then refuse .controlCharacter else skip; return .again ())
    ()

end Narrative.Json.Scan
