import Narrative.Json.Basic

/-!
# Records and variants

How structured values are read from JSON.  A record is an object, whose unknown members are passed
over, or the list of its members in order.  A variant is its name, or an object whose one member
has that name.
-/

namespace Narrative.Json

/-- The members of a record that are still to be read. -/
inductive Members where
  | named (members : Keyed Json)
  | listed (items : List Json)

/-- A reader of the members of a record. -/
abbrev Record := StateT Members Option

namespace Record

variable {α : Type}

/-- The next member, by name where there are names. -/
def member? (name : String) : Record (Option Json)
  | .named ms => some (ms.get? name, .named ms)
  | .listed [] => some (none, .listed [])
  | .listed (j :: js) => some (some j, .listed js)

/-- A member that has to be there. -/
def required (name : String) (decode : Json → Option α) : Record α := do
  decode (← StateT.lift (← member? name))

/-- A member that is `none` where it is null or, in an object, absent. -/
def optional (name : String) (decode : Json → Option α) : Record (Option α) := do
  let members ← get
  match ← member? name, members with
  | none, .named _ => return none
  | none, .listed _ => failure
  | some .null, _ => return none
  | some j, _ => return some (← decode j)

/-- A member that has a value also where it is absent. -/
def defaulted (name : String) (decode : Json → Option α) (default : α) : Record α := do
  match ← member? name with
  | none => return default
  | some j => decode j

/-- Reads a record; a list may not have items left. -/
def run (r : Record α) (members : Members) : Option α :=
  match StateT.run r members with
  | some (_, .listed (_ :: _)) => none
  | some (a, _) => some a
  | none => none

/-- Reads a record from a value. -/
def decode? (r : Record α) : Json → Option α
  | .object ms => r.run (.named ms)
  | .list items => r.run (.listed items)
  | _ => none

end Record

/-- The items of a list, each decoded. -/
def listOf? {α : Type} (decode : Json → Option α) (j : Json) : Option (List α) :=
  j.items?.bind (·.mapM decode)

/-- The name of a variant, and what comes with it. -/
def variant? : Json → Option (String × Option Json)
  | .string name => some (name, none)
  | .object [(name, j)] => some (name, some j)
  | _ => none

/-- The variant of a value among those that carry nothing. -/
def enum? {α : Type} (variants : Keyed α) (j : Json) : Option α := do
  match ← j.variant? with
  | (name, none) => variants.get? name
  | (name, some .null) => variants.get? name
  | _ => none

/-- The members of a variant that is written as an object. -/
def fields? : Json → Option Members
  | .object ms => some (.named ms)
  | _ => none

/-- An object with one member. -/
def single (name : String) (j : Json) : Json := .object [(name, j)]

end Narrative.Json
