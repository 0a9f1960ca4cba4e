import Narrative.Player.Course
import Narrative.Scene.Stage

/-!
# Players

A player runs a script on a stage, one action at a time.  An accepted action answers with the new
position and with what went wrong on the way; a refused one changes nothing.
-/

namespace Narrative

/-- A run broken off at an event, with the reason. -/
structure ScriptFailure where
  event : String
  reason : String
  deriving DecidableEq

/-- Something that went wrong. -/
inductive Diagnostic where
  | asset (failure : AssetFailure)
  | script (failure : ScriptFailure)
  deriving DecidableEq

/-- The diagnostic in words. -/
def Diagnostic.message : Diagnostic → String
  | .asset f => "failed to load " ++ f.slot.name ++ " '" ++ f.path ++ "': " ++ f.reason
  | .script f => "event '" ++ f.event ++ "': " ++ f.reason

/-- The answer to an accepted action. -/
structure Progress where
  position : Position
  diagnostics : List Diagnostic
  deriving DecidableEq

/-- A run of a script on a stage. -/
structure Player (σ : Type) where
  script : Script
  stage : Stage σ
  position : Position := .idle
  ending : Option Ending := none

namespace Player

variable {σ : Type}

/-- The player of a script that has not started. -/
def ofScript (script : Script) (device : σ) : Player σ where
  script := script
  stage := ⟨device, {}⟩

/-- What the player shows. -/
def snapshot? (p : Player σ) : Option Snapshot := p.script.snapshot? p.position

/-- The same player with another state of its device. -/
def withDevice (p : Player σ) (device : σ) : Player σ :=
  { p with stage := { p.stage with device := device } }

/-- Comes to rest at a position, in its scene. -/
def stand (m : Media σ) (position : Position) (scene : Scene) (p : Player σ) :
    Noted Note (Progress × Player σ) := do
  let (applied, stage) ← p.stage.apply m scene
  return (⟨position, applied.failures.map .asset⟩, { p with stage := stage, position := position })

/-- Ends the run: the music stops. -/
def finish (m : Media σ) (ending : Ending) (diagnostics : List Diagnostic) (p : Player σ) :
    Noted Note (Progress × Player σ) := do
  let stage ← p.stage.silence m
  return (⟨.terminated, diagnostics⟩,
    { p with stage := stage, position := .terminated, ending := some ending })

/-- Breaks the run off at an event. -/
def fail (m : Media σ) (event : String) (defect : Defect) (p : Player σ) :
    Noted Note (Progress × Player σ) := do
  Stage.note .error ("Script error at event '" ++ event ++ "': " ++ defect.reason)
  p.finish m .scriptError [.script ⟨event, defect.reason⟩]

/-- Ends a journey. -/
def arrive (m : Media σ) (arrival : Arrival) (p : Player σ) : Noted Note (Progress × Player σ) :=
  match arrival with
  | .line event first => p.stand m (.line event 0) first.scene
  | .prompt event choice => p.stand m (.prompt event) choice.scene
  | .finished last => do
    Stage.note .info ("[Engine] reached end of script after '" ++ last ++ "'")
    p.finish m .completed []
  | .broken event defect => p.fail m event defect

/-- The log line about an event that is passed over. -/
def passing (key : String) : LogLine := ⟨.debug, "[Flow] '" ++ key ++ "' has no lines, skipping"⟩

/-- Goes the journey from an event. -/
def enter (m : Media σ) (event : String) (p : Player σ) : Noted Note (Progress × Player σ) := do
  let journey := p.script.journey event
  Noted.noteAll (journey.passed.map fun key => .log (passing key))
  p.arrive m journey.arrival

/-- Takes a course. -/
def take (m : Media σ) (course : Course) (p : Player σ) : Noted Note (Progress × Player σ) :=
  match course with
  | .enter event => p.enter m event
  | .turn event index scene => p.stand m (.line event index) scene
  | .complete => p.finish m .completed []
  | .cancel => p.finish m .cancelled []
  | .fail event defect => p.fail m event defect

/-- Answers an action. -/
def step (m : Media σ) (action : Action) (p : Player σ) :
    Noted Note (Except SignalError Progress × Player σ) := do
  match ← (p.script.course p.position action).mapNotes .log with
  | .error e => return (.error e, p)
  | .ok course =>
    let (progress, p) ← p.take m course
    return (.ok progress, p)

/-- Answers a signal. -/
def handle (m : Media σ) (signal : Signal) (p : Player σ) :
    Noted Note (Except SignalError Progress × Player σ) :=
  p.step m signal.action

/-- Answers the actions one after the other. -/
def run (m : Media σ) (p : Player σ) : List Action →
    Noted Note (List (Except SignalError Progress) × Player σ)
  | [] => return ([], p)
  | action :: actions => do
    let (answer, p) ← p.step m action
    let (answers, p) ← p.run m actions
    return (answer :: answers, p)

end Player

end Narrative
