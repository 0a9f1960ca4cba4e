import Narrative.Json.Basic
import Narrative.LogLine
import Narrative.Script.Basic

/-!
# Scripts from JSON

The script that a JSON value describes.  Nothing is refused: an optional member of the wrong type
counts as absent, and an event that cannot be understood is kept as malformed, with the reason.
-/

namespace Narrative

open Json (member? stringAt?)

/-- The music that a value asks for in its member `audio`. -/
def Cue.ofJson (j : Json) : Cue where
  path := (((j.member? "audio").bind (stringAt? · "path")).getD "")
  looped := ((((j.member? "audio").bind (member? · "loop")).bind Json.bool?).getD false)

/-- The scene that a value asks for. -/
def Scene.ofJson (j : Json) : Scene where
  background := (j.stringAt? "background_sprite").getD ""
  left := (j.stringAt? "left_sprite").getD ""
  right := (j.stringAt? "right_sprite").getD ""
  audio := Cue.ofJson j

/-- A line; what is absent has its default. -/
def Line.ofJson (j : Json) : Line :=
  let default : Line := {}
  { speaker := (j.stringAt? "speaker").getD default.speaker
    text := (j.stringAt? "line").getD default.text
    scene := Scene.ofJson j }

/-- A dialogue: the items of its list `data` are the lines. -/
def Dialogue.ofJson (j : Json) : Dialogue where
  lines := (((j.member? "data").bind Json.items?).getD []).map Line.ofJson
  next := j.stringAt? "next"

/-- The member of `data` that holds the question and is no option. -/
def Choice.promptKey : String := "prompt"

/-- An option: its text, else its key, and its branch where that is a string. -/
def ChoiceOption.ofJson (branches : Keyed Json) (key : String) (j : Json) : ChoiceOption where
  key := key
  text := (j.stringAt? "text").getD key
  target := (branches.get? key).bind Json.string?

/-- A choice from the members of its `data` and its `branches`. -/
def Choice.ofMembers (j : Json) (data branches : Keyed Json) : Choice where
  prompt := ((data.get? promptKey).bind (stringAt? · "text")).getD ""
  options := (data.filter fun m => m.1 ≠ promptKey).map fun m =>
    ChoiceOption.ofJson branches m.1 m.2
  scene := Scene.ofJson j
  unmatched := branches.keys.filter fun key => key = promptKey || !data.has key

/-- A choice; both its `data` and its `branches` have to be objects. -/
def Choice.nodeOfJson (j : Json) : Node :=
  match (j.member? "data").bind Json.members?, (j.member? "branches").bind Json.members? with
  | none, _ => .malformed "choice is missing a 'data' object"
  | _, none => .malformed "choice is missing a 'branches' object"
  | some data, some branches => .choice (Choice.ofMembers j data branches)

/-- An event, by its type. -/
def Node.ofJson (j : Json) : Node :=
  match j.stringAt? "type" with
  | some "dialogue" => .dialogue (Dialogue.ofJson j)
  | some "choice" => Choice.nodeOfJson j
  | some other => .malformed ("unknown event type '" ++ other ++ "'")
  | none => .malformed "missing 'type' string"

/-- An event under its key; a malformed one is logged. -/
def Node.read (key : String) (j : Json) : Logged Node := do
  let node := Node.ofJson j
  if let .malformed reason := node then
    log .debug ("[Parse] event '" ++ key ++ "' is malformed: " ++ reason)
  return node

/-- The script in the member `events`. -/
def Script.ofJson (j : Json) : Logged Script := do
  match (j.member? "events").bind Json.members? with
  | none =>
    log .warn "Script has no 'events' object; nothing to play"
    return {}
  | some events => return .ofEntries (← events.mapM fun e => do return (e.1, ← Node.read e.1 e.2))

end Narrative
