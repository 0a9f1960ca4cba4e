import Narrative.Script.Basic
import Narrative.Text.Quoted

/-!
# Positions

Where a run of a script stands, and what it shows there.
-/

namespace Narrative

/-- Where a run stands. -/
inductive Position where
  | idle
  | line (event : String) (index : Nat)
  | prompt (event : String)
  | terminated
  deriving DecidableEq, Inhabited

namespace Position

/-- The event that the run stands at. -/
def event? : Position → Option String
  | .line event _ => some event
  | .prompt event => some event
  | .idle | .terminated => none

/-- Whether the run is over. -/
def isTerminated : Position → Bool
  | .terminated => true
  | _ => false

/-- Whether the run waits for a choice. -/
def isPrompt : Position → Bool
  | .prompt _ => true
  | _ => false

/-- The position as the log shows it. -/
def describe : Position → String
  | .idle => "Idle"
  | .line event index =>
    "AtDialogueLine \x7b event: " ++ Text.quoted event ++ ", line: " ++ Text.decimal index ++
      " \x7d"
  | .prompt event => "AtChoicePrompt \x7b event: " ++ Text.quoted event ++ " \x7d"
  | .terminated => "Terminated"

end Position

/-- How a run ended. -/
inductive Ending where
  | completed
  | cancelled
  | scriptError
  deriving DecidableEq, Inhabited

/-- An option as it is shown. -/
structure Entry where
  key : String
  text : String
  deriving DecidableEq

/-- What is shown at a line or at a choice. -/
structure Snapshot where
  speaker : String := ""
  line : String := ""
  prompt : Option String := none
  choices : Option (List Entry) := none
  deriving DecidableEq

/-- Whether there is an option to choose. -/
def Snapshot.hasChoices (s : Snapshot) : Bool := s.choices.any (!·.isEmpty)

/-- What a line shows. -/
def Snapshot.ofLine (l : Line) : Snapshot := { speaker := l.speaker, line := l.text }

/-- What a choice shows: its question, and all of its options in order. -/
def Snapshot.ofChoice (c : Choice) : Snapshot where
  prompt := some c.prompt
  choices := some (c.options.map fun o => ⟨o.key, o.text⟩)

/-- What a script shows at a position. -/
def Script.snapshot? (s : Script) : Position → Option Snapshot
  | .line event index =>
    match s.node? event with
    | some (.dialogue d) => d.lines[index]?.map .ofLine
    | _ => none
  | .prompt event =>
    match s.node? event with
    | some (.choice c) => some (.ofChoice c)
    | _ => none
  | .idle | .terminated => none

end Narrative
