import Narrative.Disk.Basic
import Narrative.Scene.Stage
import Narrative.Text.Quoted

/-!
# The console device

A device that cannot show anything: it looks whether a file is there and describes each change in a
line of text.
-/

namespace Narrative

/-- The lines that have not been shown yet. -/
structure Console where
  messages : List String := []

namespace Console

/-- One more line. -/
def say (c : Console) (message : String) : Console := ⟨c.messages ++ [message]⟩

/-- The device as the log would show it. -/
def describe (c : Console) : String :=
  "ConsoleMediaBackend \x7b messages: [" ++ ", ".intercalate (c.messages.map Text.quoted) ++
    "], .. \x7d"

/-- Looks for the file of an asset; `found` is where it should be. -/
def find (disk : Disk) (found path : String) : Except MediaError Unit :=
  match disk.kind found with
  | .ok .file => .ok ()
  | .ok .directory => .error (.notFound path)
  | .error .missing => .error (.notFound path)
  | .error fault => .error (.unreadable path fault.message)

/-- The answer to a call; `locate` says where the file of an asset is. -/
def answer (disk : Disk) (locate : String → String) (call : Call) (c : Console) :
    Except MediaError Unit × Console :=
  match call with
  | .load slot path =>
    match find disk (locate path) path with
    | .ok () => (.ok (), c.say ("[" ++ (slot : Slot).name ++ "] " ++ path))
    | .error e => (.error e, c)
  | .release slot => (.ok (), c.say ("[" ++ (slot : Slot).name ++ "] (cleared)"))
  | .play path looped =>
    match find disk (locate path) path with
    | .ok () => (.ok (), c.say ("[bgm] playing " ++ path ++ if looped then " (loop)" else ""))
    | .error e => (.error e, c)
  | .stop => (.ok (), c)

/-- What is logged about a call. -/
def journal : Call → List LogLine
  | .stop => [⟨.trace, "[Console] stop music"⟩]
  | _ => []

/-- The console as a device. -/
def media (disk : Disk) (locate : String → String) : Media Console where
  answer := answer disk locate
  journal := journal

end Console

end Narrative
