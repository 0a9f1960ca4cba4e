import Narrative.Json.Reader

/-!
# Scalars of a given type

Reading a string or a truth value where nothing else will do.
-/

namespace Narrative.Json.Scan

/-- Refuses a value of another type than the expected one.  A scalar is read to its end first. -/
def wrongType {α : Type} (expected : String) : Scan α := do
  match ← token with
  | some '[' => refuse (.wrongType .list expected)
  | some '\x7b' => refuse (.wrongType .object expected)
  | _ =>
    let found : Found :=
      match ← valueWith (refuse .expectedValue) (refuse .expectedValue) with
      | .bool b => .bool b
      | .number n => .number n
      | .string s => .string s
      | _ => .null
    refuse (.wrongType found expected)

/-- A string, described by what it is expected to be. -/
def stringField (expected : String) : Scan String := do
  match ← token with
  | some '"' => skip; string
  | _ => wrongType expected

/-- A truth value. -/
def boolField : Scan Bool := do
  match ← token with
  | some 't' => skip; word ['r', 'u', 'e']; return true
  | some 'f' => skip; word ['a', 'l', 's', 'e']; return false
  | _ => wrongType "a boolean"

end Narrative.Json.Scan
