import Narrative.Player.Basic
import Narrative.Scene.Codec

/-!
# Runs in JSON

Writing and reading signals, positions, and what a player answers and shows.
-/

namespace Narrative

open Json (Record)

def Signal.encode : Signal → Json
  | .advance => .string "Advance"
  | .choose key => .single "Choose" (.object [("key", .string key)])
  | .cancel => .string "Cancel"

def Signal.decode? (j : Json) : Option Signal :=
  match j.variant? with
  | some ("Choose", some j) => do
    (do return .choose (← Record.required "key" Json.string?) : Record Signal).run (← j.fields?)
  | _ => Json.enum? [("Advance", .advance), ("Cancel", .cancel)] j

def Position.encode : Position → Json
  | .idle => .string "Idle"
  | .line event index =>
    .single "AtDialogueLine" (.object [("event", .string event), ("line", .nat index)])
  | .prompt event => .single "AtChoicePrompt" (.object [("event", .string event)])
  | .terminated => .string "Terminated"

def Position.decode? (j : Json) : Option Position :=
  match j.variant? with
  | some ("AtDialogueLine", some j) => do
    (do return .line (← Record.required "event" Json.string?) (← Record.required "line" Json.nat?) :
      Record Position).run (← j.fields?)
  | some ("AtChoicePrompt", some j) => do
    (do return .prompt (← Record.required "event" Json.string?) : Record Position).run (← j.fields?)
  | _ => Json.enum? [("Idle", .idle), ("Terminated", .terminated)] j

def Ending.encode : Ending → Json
  | .completed => .string "Completed"
  | .cancelled => .string "Cancelled"
  | .scriptError => .string "ScriptError"

def Ending.decode? : Json → Option Ending :=
  Json.enum?
    [("Completed", .completed), ("Cancelled", .cancelled), ("ScriptError", .scriptError)]

def ScriptFailure.encode (f : ScriptFailure) : Json :=
  .object [("event", .string f.event), ("reason", .string f.reason)]

def ScriptFailure.decode? : Json → Option ScriptFailure :=
  Record.decode? do
    return { event := ← Record.required "event" Json.string?
             reason := ← Record.required "reason" Json.string? }

def Diagnostic.encode : Diagnostic → Json
  | .asset f => .single "Asset" f.encode
  | .script f => .single "Script" f.encode

def Diagnostic.decode? (j : Json) : Option Diagnostic :=
  match j.variant? with
  | some ("Asset", some j) => (AssetFailure.decode? j).map .asset
  | some ("Script", some j) => (ScriptFailure.decode? j).map .script
  | _ => none

def Progress.encode (p : Progress) : Json :=
  .object
    [("state", p.position.encode), ("diagnostics", .list (p.diagnostics.map Diagnostic.encode))]

def Progress.decode? : Json → Option Progress :=
  Record.decode? do
    return { position := ← Record.required "state" Position.decode?
             diagnostics := ← Record.required "diagnostics" (Json.listOf? Diagnostic.decode?) }

def Entry.encode (e : Entry) : Json :=
  .object [("key", .string e.key), ("text", .string e.text)]

def Entry.decode? : Json → Option Entry :=
  Record.decode? do
    return { key := ← Record.required "key" Json.string?
             text := ← Record.required "text" Json.string? }

def Snapshot.encode (s : Snapshot) : Json :=
  .object
    [("speaker", .string s.speaker), ("line", .string s.line), ("prompt", Json.ofString? s.prompt),
      ("choices", (s.choices.map fun es => .list (es.map Entry.encode)).getD .null)]

def Snapshot.decode? : Json → Option Snapshot :=
  Record.decode? do
    return { speaker := ← Record.required "speaker" Json.string?
             line := ← Record.required "line" Json.string?
             prompt := ← Record.optional "prompt" Json.string?
             choices := ← Record.optional "choices" (Json.listOf? Entry.decode?) }

end Narrative
