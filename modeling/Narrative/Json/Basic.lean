import Narrative.Keyed

/-!
# JSON values

A value keeps the members of an object in the order in which their names first came.  Numbers are
kept by kind: the whole numbers that fit 64 bits, and doubles for all others.
-/

namespace Narrative

/-- A number, by kind. -/
inductive Json.Number where
  /-- A whole number below `2 ^ 64`. -/
  | natural (n : Nat)
  /-- The whole number `-n`, where `0 < n ≤ 2 ^ 63`. -/
  | negative (n : Nat)
  | real (x : Float)
  deriving Inhabited

/-- A JSON value. -/
inductive Json where
  | null
  | bool (b : Bool)
  | number (n : Json.Number)
  | string (s : String)
  | list (items : List Json)
  | object (members : List (String × Json))
  deriving Inhabited

namespace Json

/-- A natural number as a value. -/
def nat (n : Nat) : Json := .number (.natural n)

/-- A string or null. -/
def ofString? : Option String → Json
  | none => .null
  | some s => .string s

/-- A list of strings. -/
def ofStrings (ss : List String) : Json := .list (ss.map .string)

/-- The members of an object. -/
def members? : Json → Option (Keyed Json)
  | .object members => some members
  | _ => none

/-- The items of a list. -/
def items? : Json → Option (List Json)
  | .list items => some items
  | _ => none

/-- The text of a string. -/
def string? : Json → Option String
  | .string s => some s
  | _ => none

/-- The truth value of a value that is one. -/
def bool? : Json → Option Bool
  | .bool b => some b
  | _ => none

/-- A whole number that is not negative. -/
def nat? : Json → Option Nat
  | .number (.natural n) => some n
  | _ => none

/-- The member of an object under a name; other values have no members. -/
def member? (j : Json) (name : String) : Option Json :=
  j.members?.bind (·.get? name)

/-- The member under a name where it is a string. -/
def stringAt? (j : Json) (name : String) : Option String :=
  (j.member? name).bind string?

@[simp] theorem member?_object (members : List (String × Json)) (name : String) :
    (Json.object members).member? name = Keyed.get? members name := rfl

end Json

end Narrative
