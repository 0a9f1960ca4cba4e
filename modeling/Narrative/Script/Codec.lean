import Narrative.Scene.Codec
import Narrative.Script.Check

/-!
# Scripts in JSON

Writing and reading events, whole scripts and findings.  This form keeps an event as it is, whereas
`Script.ofJson` reads what an author writes.
-/

namespace Narrative

open Json (Record)

def Line.encode (l : Line) : Json :=
  .object [("speaker", .string l.speaker), ("text", .string l.text), ("scene", l.scene.encode)]

def Line.decode? : Json → Option Line :=
  Record.decode? do
    return { speaker := ← Record.required "speaker" Json.string?
             text := ← Record.required "text" Json.string?
             scene := ← Record.required "scene" Scene.decode? }

def ChoiceOption.encode (o : ChoiceOption) : Json :=
  .object [("key", .string o.key), ("text", .string o.text), ("target", Json.ofString? o.target)]

def ChoiceOption.decode? : Json → Option ChoiceOption :=
  Record.decode? do
    return { key := ← Record.required "key" Json.string?
             text := ← Record.required "text" Json.string?
             target := ← Record.optional "target" Json.string? }

/-- The members of a dialogue. -/
def Dialogue.record : Record Dialogue := do
  return { lines := ← Record.required "lines" (Json.listOf? Line.decode?)
           next := ← Record.optional "next" Json.string? }

/-- The members of a choice; unmatched branches may be absent. -/
def Choice.record : Record Choice := do
  return { prompt := ← Record.required "prompt" Json.string?
           options := ← Record.required "options" (Json.listOf? ChoiceOption.decode?)
           scene := ← Record.required "scene" Scene.decode?
           unmatched :=
             ← Record.defaulted "unmatched_branches" (Json.listOf? Json.string?) [] }

def Node.encode (n : Node) : Json :=
  .object <| ("kind", .string n.kind) ::
    match n with
    | .dialogue d =>
      [("lines", .list (d.lines.map Line.encode)), ("next", Json.ofString? d.next)]
    | .choice c =>
      [("prompt", .string c.prompt), ("options", .list (c.options.map ChoiceOption.encode)),
        ("scene", c.scene.encode), ("unmatched_branches", Json.ofStrings c.unmatched)]
    | .malformed reason => [("reason", .string reason)]

/-- An event: its kind comes first, or under its name. -/
def Node.decode? : Json → Option Node :=
  Record.decode? do
    match ← Record.required "kind" Json.string? with
    | "dialogue" => return .dialogue (← Dialogue.record)
    | "choice" => return .choice (← Choice.record)
    | "malformed" => return .malformed (← Record.required "reason" Json.string?)
    | _ => failure

/-- A script as it is, with both of its parts. -/
def Script.decode? : Json → Option Script :=
  Record.decode? do
    return { order := ← Record.required "order" (Json.listOf? Json.string?)
             nodes := ← Record.required "events" fun j =>
               j.members?.bind (·.mapM fun m => (Node.decode? m.2).map (m.1, ·)) }

/-- A key and an event, as a list of the two. -/
def Script.decodeEntry? : Json → Option (String × Node)
  | .list [.string key, j] => (Node.decode? j).map (key, ·)
  | _ => none

/-- The entries of a script. -/
def Script.encodeEntries (s : Script) : Json :=
  .list (s.entries.map fun e => .list [.string e.1, e.2.encode])

/-- An overview of a script with all that a run can list of it. -/
def Script.encode (s : Script) : Json :=
  .object
    [("len", .nat s.size), ("empty", .bool s.order.isEmpty), ("first", Json.ofString? s.first?),
      ("events", s.encodeEntries)]

/-- The severities by name. -/
def Severity.table : Keyed Severity := [("Warning", .warning), ("Error", .error)]

def Severity.encode : Severity → Json
  | .warning => .string "Warning"
  | .error => .string "Error"

def Finding.encode (f : Finding) : Json :=
  .object
    [("severity", f.severity.encode), ("event", Json.ofString? f.event),
      ("message", .string f.message)]

def Finding.decode? : Json → Option Finding :=
  Record.decode? do
    return { severity := ← Record.required "severity" (Json.enum? Severity.table)
             event := ← Record.optional "event" Json.string?
             message := ← Record.required "message" Json.string? }

end Narrative
