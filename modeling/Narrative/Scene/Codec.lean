import Narrative.Json.Record
import Narrative.Scene.Stage

/-!
# Scenes in JSON

Writing and reading scenes, slots and what became of them.
-/

namespace Narrative

open Json (Record)

def Cue.encode (c : Cue) : Json :=
  .object [("path", .string c.path), ("loop", .bool c.looped)]

def Cue.decode? : Json → Option Cue :=
  Record.decode? do
    return { path := ← Record.required "path" Json.string?
             looped := ← Record.required "loop" Json.bool? }

def Scene.encode (s : Scene) : Json :=
  .object
    [("background", .string s.background), ("left", .string s.left), ("right", .string s.right),
      ("audio", s.audio.encode)]

def Scene.decode? : Json → Option Scene :=
  Record.decode? do
    return { background := ← Record.required "background" Json.string?
             left := ← Record.required "left" Json.string?
             right := ← Record.required "right" Json.string?
             audio := ← Record.required "audio" Cue.decode? }

/-- The image slots by name. -/
def ImageSlot.table : Keyed ImageSlot :=
  [("Background", .background), ("Left", .left), ("Right", .right)]

/-- The slots by name. -/
def Slot.table : Keyed Slot :=
  ImageSlot.table.map (fun e => (e.1, Slot.image e.2)) ++ [("Audio", .audio)]

def Slot.encode (s : Slot) : Json :=
  .string <|
    match s with
    | .image .background => "Background"
    | .image .left => "Left"
    | .image .right => "Right"
    | .audio => "Audio"

def ImageSlot.decode? : Json → Option ImageSlot := Json.enum? table

def Slot.decode? : Json → Option Slot := Json.enum? table

def Status.encode (s : Status) : Json :=
  .string <|
    match s with
    | .unchanged => "Unchanged"
    | .loaded => "Loaded"
    | .cleared => "Cleared"
    | .failed => "Failed"

def Status.decode? : Json → Option Status :=
  Json.enum?
    [("Unchanged", .unchanged), ("Loaded", .loaded), ("Cleared", .cleared), ("Failed", .failed)]

def AssetFailure.encode (f : AssetFailure) : Json :=
  .object [("slot", f.slot.encode), ("path", .string f.path), ("reason", .string f.reason)]

def AssetFailure.decode? : Json → Option AssetFailure :=
  Record.decode? do
    return { slot := ← Record.required "slot" Slot.decode?
             path := ← Record.required "path" Json.string?
             reason := ← Record.required "reason" Json.string? }

def Applied.encode (a : Applied) : Json :=
  .object
    [("background", a.background.encode), ("left", a.left.encode), ("right", a.right.encode),
      ("audio", a.audio.encode), ("diagnostics", .list (a.failures.map AssetFailure.encode))]

def Applied.decode? : Json → Option Applied :=
  Record.decode? do
    return { background := ← Record.required "background" Status.decode?
             left := ← Record.required "left" Status.decode?
             right := ← Record.required "right" Status.decode?
             audio := ← Record.required "audio" Status.decode?
             failures := ← Record.required "diagnostics" (Json.listOf? AssetFailure.decode?) }

def Call.encode : Call → Json
  | .load slot path =>
    .object [("call", .string "load"), ("slot", (slot : Slot).encode), ("path", .string path)]
  | .release slot => .object [("call", .string "release"), ("slot", (slot : Slot).encode)]
  | .play path looped =>
    .object [("call", .string "play"), ("path", .string path), ("loop", .bool looped)]
  | .stop => .object [("call", .string "stop")]

/-- What a scene shows, empty places as null. -/
def Scene.encodeShown (s : Scene) : Json :=
  .object
    [("background", Json.ofString? (s.image? .background)),
      ("left", Json.ofString? (s.image? .left)), ("right", Json.ofString? (s.image? .right)),
      ("audio", (s.cue?.map Cue.encode).getD .null)]

end Narrative
