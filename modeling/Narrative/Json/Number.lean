import Narrative.Json.Scan

/-!
# Numbers in a text

A number is read into a 64-bit significand and a decimal exponent.  Digits that no longer fit the
significand are dropped; a number that is too large for a double is refused.
-/

namespace Narrative.Json

/-- `significand · 10 ^ exponent`. -/
structure Scaled where
  significand : Nat
  exponent : Int

/-- The significand with one digit more, where that fits 64 bits. -/
def appendDigit? (significand digit : Nat) : Option Nat :=
  let n := significand * 10 + digit
  if n < 0x10000000000000000 then some n else none

/-- Takes up the digits of the whole part: from the first that does not fit, each counts as a
power of ten. -/
def wholeDigits (significand : Nat) : List Nat → Scaled
  | [] => ⟨significand, 0⟩
  | d :: ds =>
    match appendDigit? significand d with
    | some n => wholeDigits n ds
    | none => ⟨significand, ds.length + 1⟩

/-- Takes up the digits behind the point: from the first that does not fit, all are dropped. -/
def fractionDigits (x : Scaled) : List Nat → Scaled
  | [] => x
  | d :: ds =>
    match appendDigit? x.significand d with
    | some n => fractionDigits ⟨n, x.exponent - 1⟩ ds
    | none => x

/-- A double times a power of ten, or nothing where that is too large. -/
def scale? (x : Float) (exponent : Int) : Option Float :=
  if 308 < exponent.natAbs then
    if x == 0 then some x
    else if 0 < exponent then none
    else scale? (x / Float.ofScientific 1 false 308) (exponent + 308)
  else if exponent < 0 then some (x / Float.ofScientific 1 false exponent.natAbs)
  else
    let y := x * Float.ofScientific 1 false exponent.natAbs
    if y.isInf then none else some y
termination_by exponent.natAbs

/-- The double nearest to the significand, scaled. -/
def Scaled.toFloat? (x : Scaled) : Option Float :=
  scale? x.significand.toUInt64.toFloat x.exponent

namespace Scan

/-- The digits of an exponent behind its first.  `none` where the exponent leaves 32 bits and the
number is zero for it; a number that is too large for it is refused at the digit. -/
def exponentDigits (tooLarge : Bool) (exponent : Nat) : Bytes → Except Fault (Option Nat × Bytes)
  | [] => .ok (some exponent, [])
  | b :: rest =>
    match Text.digit? (Char.ofUInt8 b) with
    | none => .ok (some exponent, b :: rest)
    | some d =>
      if exponent * 10 + d < 0x80000000 then exponentDigits tooLarge (exponent * 10 + d) rest
      else if tooLarge then .error ⟨.numberOutOfRange, rest⟩
      else .ok (none, rest.dropWhile fun b => (Text.digit? (Char.ofUInt8 b)).isSome)

/-- Takes a digit, which has to be there. -/
def digit : Scan Nat := do
  match ← next with
  | none => refuse .endInValue
  | some c =>
    match Text.digit? c with
    | some d => pure d
    | none => refuse .invalidNumber

/-- The whole part of a number: a zero stands alone. -/
def whole : Scan Scaled := do
  let first ← digit
  if first = 0 then
    match ← peek with
    | some c => if (Text.digit? c).isSome then refuseNext .invalidNumber else pure ⟨0, 0⟩
    | none => pure ⟨0, 0⟩
  else
    return wholeDigits first (← digits)

/-- The digits behind the point. -/
def fraction (x : Scaled) : Scan Scaled := do
  match ← digits with
  | [] =>
    match ← peek with
    | none => refuse .endInValue
    | some _ => refuseNext .invalidNumber
  | ds => pure (fractionDigits x ds)

/-- The exponent behind its letter; `none` where the number is zero for it. -/
def exponent (x : Scaled) : Scan (Option Scaled) := do
  let plus ← accept '+'
  let minus ← if plus then pure false else accept '-'
  let first ← digit
  match ← fun _ => exponentDigits (!minus && x.significand != 0) first with
  | none => pure none
  | some e => pure (some ⟨x.significand, if minus then x.exponent - e else x.exponent + e⟩)

/-- A double of the given sign, where it is not too large. -/
def real (negative : Bool) (x : Option Scaled) : Scan Number :=
  match x with
  | none => pure (.real (if negative then -0.0 else 0.0))
  | some x =>
    match x.toFloat? with
    | some f => pure (.real (if negative then -f else f))
    | none => refuse .numberOutOfRange

/-- The kind of a whole number without point and exponent. -/
def integer (negative : Bool) (n : Nat) : Number :=
  if !negative then .natural n
  else if n = 0 then .real (-0.0)
  else if n ≤ 0x8000000000000000 then .negative n
  else .real (-n.toUInt64.toFloat)

/-- Takes a number. -/
def number : Scan Number := do
  let negative ← accept '-'
  let x ← whole
  let point ← accept '.'
  let x' ← if point then fraction x else pure x
  let letter ← peek
  if letter = some 'e' ∨ letter = some 'E' then
    skip
    real negative (← exponent x')
  else if point ∨ x.exponent ≠ 0 then
    real negative (some x')
  else
    pure (integer negative x.significand)

end Scan

end Narrative.Json
