import Narrative.Config.Basic
import Narrative.Disk.Basic
import Narrative.Json.Skip
import Narrative.Json.Typed

/-!
# Settings in a file

Settings are an object with a member for each, or the list of them in order.  What is absent keeps
its default; members of other names are passed over.
-/

namespace Narrative

open Json (Scan)

namespace Config

/-- The settings, in the order in which a list gives them. -/
inductive Field where
  | assetRoot
  | logFilter
  | debug
  deriving DecidableEq

/-- The name of a setting in an object. -/
def Field.name : Field → String
  | .assetRoot => "asset_root"
  | .logFilter => "log_filter"
  | .debug => "debug"

/-- All settings, in order. -/
def fields : List Field := [.assetRoot, .logFilter, .debug]

/-- The setting of a name. -/
def field? (name : String) : Option Field := fields.find? fun f => f.name = name

/-- Reads a setting into the others. -/
def scanField (c : Config) : Field → Scan Config
  | .assetRoot => return { c with assetRoot := ← Scan.stringField "path string" }
  | .logFilter => return { c with logFilter := ← Scan.stringField "a string" }
  | .debug => return { c with debug := ← Scan.boolField }

/-- Refuses a setting that is given again.  The place is behind the name and what blanks follow it,
and behind the closing brace if that is next. -/
def refuseRepeated (f : Field) : Scan Config := do
  let _ ← Scan.token
  let _ ← Scan.accept '\x7d'
  Scan.refuse (.repeatedField f.name)

/-- Reads the members of an object behind its brace. -/
def scanMembers : Scan Config :=
  Scan.loop (fun ((c, seen, isFirst) : Config × List Field × Bool) => do
    match ← Scan.memberName isFirst with
    | none => Scan.skip; return .done c
    | some name =>
      match field? name with
      | none =>
        Scan.colon
        Scan.skipValue
        return .again (c, seen, false)
      | some f =>
        if f ∈ seen then
          return .done (← refuseRepeated f)
        else
          Scan.colon
          return .again (← scanField c f, f :: seen, false))
    ({}, [], true)

/-- Reads the items of a list behind its bracket, up to the closing one. -/
def scanItems (c : Config) (isFirst : Bool) : List Field → Scan Config
  | [] => do
    match ← Scan.token with
    | none => Scan.refuseNext .endInList
    | some ']' => Scan.skip; return c
    | some ',' =>
      Scan.skip
      match ← Scan.token with
      | some ']' => Scan.refuseNext .trailingComma
      | _ => Scan.refuseNext .trailingCharacters
    | some _ => Scan.refuseNext .trailingCharacters
  | f :: fs => do
    match ← Scan.token with
    | none => Scan.refuseNext .endInList
    | some ']' => Scan.skip; return c
    | some c' =>
      unless isFirst do
        if c' ≠ ',' then Scan.refuseNext .expectedListComma
        Scan.skip
        match ← Scan.token with
        | none => Scan.refuseNext .endInValue
        | some ']' => Scan.refuseNext .trailingComma
        | some _ => pure ()
      scanItems (← scanField c f) false fs

/-- Reads the settings of a text. -/
def scan : Scan Config := do
  let c ←
    match ← Scan.token with
    | some '\x7b' => Scan.skip; scanMembers
    | some '[' => Scan.skip; scanItems {} true fields
    | _ => Scan.wrongType "struct PlayerConfig"
  Scan.finish
  return c

/-- The settings that a text holds. -/
def ofText (text : String) : Except Json.Refusal Config := scan.run text.toUTF8.toList

/-- The settings that a file holds. -/
def ofFile (disk : Disk) (path : String) : Except ConfigError Config :=
  match disk.text path with
  | .error fault => .error (.unreadable path fault)
  | .ok text => (ofText text).mapError (.notConfig path)

end Config

end Narrative
