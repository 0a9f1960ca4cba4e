import Narrative.Json.Token

/-!
# Reading a value

The value that a text holds.  In an object a repeated name keeps its first place and its last
value.  Lists and objects nest up to 127 deep.
-/

namespace Narrative.Json

namespace Scan

/-- The items of a list behind its bracket, each read by `item`. -/
def items {α : Type} (item : Scan α) : Scan (List α) :=
  loop (fun (taken : List α) => do
    match ← token with
    | none => refuseNext .endInList
    | some ']' => skip; return .done taken.reverse
    | some c =>
      unless taken.isEmpty do
        if c ≠ ',' then refuseNext .expectedListComma
        skip
        match ← token with
        | none => refuseNext .endInValue
        | some ']' => refuseNext .trailingComma
        | some _ => pure ()
      return .again ((← item) :: taken))
    []

/-- Takes a name of an object with its quotes; `none` where the object ends instead.  Every name
but the first stands behind a comma. -/
def memberName (isFirst : Bool) : Scan (Option String) := do
  match ← token with
  | none => refuseNext .endInObject
  | some '\x7d' => return none
  | some c =>
    if isFirst then
      if c ≠ '"' then refuseNext .keyNotString
    else
      if c ≠ ',' then refuseNext .expectedObjectComma
      skip
      match ← token with
      | none => refuseNext .endInValue
      | some '\x7d' => refuseNext .trailingComma
      | some '"' => pure ()
      | some _ => refuseNext .keyNotString
    skip
    return some (← string)

/-- Takes the colon behind a name. -/
def colon : Scan Unit := do
  match ← token with
  | none => refuseNext .endInObject
  | some ':' => skip
  | some _ => refuseNext .expectedColon

/-- The members of an object behind its brace, each value read by `value`. -/
def members {α : Type} (value : Scan α) : Scan (Keyed α) :=
  loop (fun ((taken, isFirst) : Keyed α × Bool) => do
    match ← memberName isFirst with
    | none => skip; return .done taken
    | some name =>
      colon
      return .again (taken.put name (← value), false))
    ([], true)

/-- A value whose lists and objects, brackets included, are read by the given scanners. -/
def valueWith (list object : Scan Json) : Scan Json := do
  match ← token with
  | none => refuseNext .endInValue
  | some 'n' => skip; word ['u', 'l', 'l']; return .null
  | some 't' => skip; word ['r', 'u', 'e']; return .bool true
  | some 'f' => skip; word ['a', 'l', 's', 'e']; return .bool false
  | some '"' => skip; return .string (← string)
  | some '[' => list
  | some '\x7b' => object
  | some c =>
    if c = '-' ∨ (Text.digit? c).isSome then return .number (← number)
    else refuseNext .expectedValue

/-- A value that opens no more than `depth` lists and objects inside one another. -/
def value : (depth : Nat) → Scan Json
  | 0 => valueWith (refuseNext .tooDeep) (refuseNext .tooDeep)
  | depth + 1 =>
    valueWith
      (do skip; return .list (← items (value depth)))
      (do skip; return .object (← members (value depth)))

/-- How deep lists and objects may nest. -/
def depthLimit : Nat := 127

end Scan

/-- The value that a text holds. -/
def ofText (text : String) : Except Refusal Json :=
  Scan.run (do let j ← Scan.value Scan.depthLimit; Scan.finish; pure j) text.toUTF8.toList

end Narrative.Json
