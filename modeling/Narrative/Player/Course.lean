import Narrative.LogLine
import Narrative.Player.Position
import Narrative.Player.Signal
import Narrative.Script.Journey

/-!
# Courses

What a script makes of an action: a refusal, or the course that the run takes.  Nothing is shown or
heard yet; a course depends on the script, the position and the action alone.
-/

namespace Narrative

/-- The course that a run takes. -/
inductive Course where
  /-- Into an event, and on from there. -/
  | enter (event : String)
  /-- To another line of the same dialogue. -/
  | turn (event : String) (index : Nat) (scene : Scene)
  | complete
  | cancel
  | fail (event : String) (defect : Defect)
  deriving DecidableEq

namespace Script

/-- The course from the start. -/
def startCourse (s : Script) : Logged Course :=
  match s.first? with
  | some key => do
    log .debug ("[Engine] starting at event '" ++ key ++ "'")
    return .enter key
  | none => do
    log .info "[Engine] script has no events"
    return .complete

/-- The course from a line of a dialogue. -/
def advanceCourse (s : Script) (event : String) (index : Nat) : Logged Course :=
  match s.node? event with
  | some (.dialogue d) =>
    match d.lines[index + 1]? with
    | some line => return .turn event (index + 1) line.scene
    | none =>
      match s.successor? event d with
      | some next => do
        log .debug ("[Flow] '" ++ event ++ "' finished, moving to '" ++ next ++ "'")
        return .enter next
      | none => do
        log .info ("[Engine] reached end of script after '" ++ event ++ "'")
        return .complete
  | _ => return .fail event .noDialogue

/-- The course that an option takes. -/
def optionCourse (event key : String) : Option String → Logged Course
  | some target => do
    log .debug ("[Branch] '" ++ event ++ "' chose '" ++ key ++ "', moving to '" ++ target ++ "'")
    return .enter target
  | none => return .fail event (.noTarget key)

/-- The course of choosing by key. -/
def chooseCourse (s : Script) (event key : String) : Logged (Except SignalError Course) :=
  match s.node? event with
  | some (.choice c) =>
    match c.option? key with
    | some o => .ok <$> optionCourse event key o.target
    | none => do
      log .debug ("[Branch] rejected unknown choice '" ++ key ++ "' at '" ++ event ++ "'")
      return .error (.unknownChoice event key)
  | _ => .ok <$> optionCourse event key none

/-- The course of choosing by place: the key at that place is chosen. -/
def chooseNthCourse (s : Script) (event : String) (index : Nat) :
    Logged (Except SignalError Course) :=
  match s.node? event with
  | some (.choice c) =>
    match c.options[index]? with
    | some o => s.chooseCourse event o.key
    | none => return .error (.indexOutOfRange event index c.options.length)
  | _ => return .error .noPendingChoice

/-- The course that the run takes from a position on an action. -/
def course (s : Script) : Position → Action → Logged (Except SignalError Course)
  | .terminated, _ => return .error .terminated
  | .idle, .start => .ok <$> s.startCourse
  | _, .start => return .error .alreadyStarted
  | .idle, .cancel => cancelCourse .idle
  | .idle, _ => return .error .notStarted
  | .line event index, .advance => .ok <$> s.advanceCourse event index
  | .line event index, .cancel => cancelCourse (.line event index)
  | .line .., _ => return .error .noPendingChoice
  | .prompt event, .advance => return .error (.awaitingChoice event)
  | .prompt event, .choose key => s.chooseCourse event key
  | .prompt event, .chooseNth index => s.chooseNthCourse event index
  | .prompt event, .cancel => cancelCourse (.prompt event)
where
  /-- The course of breaking off at a position. -/
  cancelCourse (p : Position) : Logged (Except SignalError Course) := do
    log .info ("[Engine] cancelled at " ++ p.describe)
    return .ok .cancel

end Script

end Narrative
