import Narrative.Disk.Basic
import Narrative.Json.Reader
import Narrative.Script.OfJson

/-!
# Loading a script

From a text or a file to a script.  Only a text that is not JSON fails.
-/

namespace Narrative

/-- Why there is no script. -/
inductive LoadError where
  | notJson (refusal : Json.Refusal)
  | unreadable (path : String) (fault : DiskFault)

/-- The error in words. -/
def LoadError.message : LoadError → String
  | .notJson r =>
    "invalid JSON at " ++ Text.decimal r.place.line ++ ":" ++ Text.decimal r.place.column ++ ": " ++
      r.message
  | .unreadable path fault => "failed to read script " ++ path ++ ": " ++ fault.message

/-- The script that a text holds. -/
def Script.ofText (text : String) : Logged (Except LoadError Script) :=
  match Json.ofText text with
  | .ok j => .ok <$> Script.ofJson j
  | .error r => pure (.error (.notJson r))

/-- The script that a file holds. -/
def Script.ofFile (disk : Disk) (path : String) : Logged (Except LoadError Script) :=
  match disk.text path with
  | .ok text => Script.ofText text
  | .error fault => pure (.error (.unreadable path fault))

end Narrative
