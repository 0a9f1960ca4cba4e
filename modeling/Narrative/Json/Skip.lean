import Narrative.Json.Token

/-!
# Passing over a value

A value that nobody wants is only scanned: numbers may be of any size, lists and objects may nest
as deep as they like, and any four hexadecimal digits make an escape.
-/

namespace Narrative.Json.Scan

/-- Takes a digit, which has to be there. -/
def skipDigit : Scan Nat := do
  match (← peek).bind Text.digit? with
  | some d => skip; pure d
  | none =>
    skip
    refuse .invalidNumber

/-- Passes over an exponent. -/
def skipExponent : Scan Unit := do
  let plus ← accept '+'
  unless plus do let _ ← accept '-'
  let _ ← skipDigit
  let _ ← digits

/-- Passes over a number. -/
def skipNumber : Scan Unit := do
  let _ ← accept '-'
  let first ← skipDigit
  if first = 0 then
    if ((← peek).bind Text.digit?).isSome then refuseNext .invalidNumber
  else
    let _ ← digits
  if ← accept '.' then
    if (← digits).isEmpty then refuseNext .invalidNumber
  let letter ← peek
  if letter = some 'e' ∨ letter = some 'E' then
    skip
    skipExponent

/-- What is open around a value: a list or an object. -/
inductive Bracket where
  | list
  | object
  deriving DecidableEq

/-- The character that closes a bracket. -/
def Bracket.close : Bracket → Char
  | .list => ']'
  | .object => '\x7d'

/-- The end of the text comes inside the bracket. -/
def Bracket.unclosed : Bracket → Cause
  | .list => .endInList
  | .object => .endInObject

/-- Something else than a comma comes behind a value. -/
def Bracket.noComma : Bracket → Cause
  | .list => .expectedListComma
  | .object => .expectedObjectComma

/-- Passes over a name and its colon. -/
def skipName : Scan Unit := do
  match ← token with
  | none => refuseNext .endInObject
  | some '"' => skip; skipString
  | some _ => refuseNext .keyNotString
  match ← token with
  | none => refuseNext .endInObject
  | some ':' => skip
  | some _ => refuseNext .expectedColon

/-- What a turn of passing over a value begins with. -/
inductive Turning where
  /-- A value has to come. -/
  | value
  /-- A bracket was opened, or a value was passed over. -/
  | inside (behindValue : Bool)

/-- One turn: passes over a scalar, over an opening or a closing bracket, or over a comma and the
name behind it. -/
def skipTurn : Turning × List Bracket → Scan (Turn (Turning × List Bracket) Unit)
  | (.value, stack) => do
    match ← token with
    | none => refuseNext .endInValue
    | some '[' => skip; return .again (.inside false, .list :: stack)
    | some '\x7b' => skip; return .again (.inside false, .object :: stack)
    | some 'n' => skip; word ['u', 'l', 'l']
    | some 't' => skip; word ['r', 'u', 'e']
    | some 'f' => skip; word ['a', 'l', 's', 'e']
    | some '"' => skip; skipString
    | some c =>
      if c = '-' ∨ (Text.digit? c).isSome then skipNumber
      else refuseNext .expectedValue
    return .again (.inside true, stack)
  | (.inside _, []) => return .done ()
  | (.inside behindValue, bracket :: stack) => do
    match ← token with
    | none => refuseNext bracket.unclosed
    | some c =>
      if c = bracket.close then
        skip
        return .again (.inside true, stack)
      else if behindValue && c ≠ ',' then refuseNext bracket.noComma
      else
        if behindValue then skip
        if bracket = .object then skipName
        return .again (.value, bracket :: stack)

/-- Passes over a value.  A turn that takes nothing is followed by one that does. -/
def skipValue : Scan Unit := do
  turns skipTurn (2 * (← read) + 2) (.value, [])

end Narrative.Json.Scan
