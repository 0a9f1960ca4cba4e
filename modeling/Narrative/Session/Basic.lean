import Narrative.Json.Printer
import Narrative.Player.Codec
import Narrative.Scene.Console
import Narrative.Session.Command
import Narrative.Session.Piece

/-!
# Console sessions

A script is played on a console: the session shows where the run stands, reads a line, acts on it,
and so on until the run ends or the input does.
-/

namespace Narrative

namespace Session

/-- What is written first. -/
def banner : Piece :=
  .lines
    ["=== shiori Event Player ===", "", "Controls:", "  Enter: next", "  1-9:   select choice",
      "  q:     quit", ""]

/-- What is written last. -/
def closing : Ending → Piece
  | .completed => .lines ["", "== THE END =="]
  | .cancelled => .lines ["", "Goodbye!"]
  | .scriptError => .lines ["", "== STOPPED: script error =="]

/-- What is shown where the run stands. -/
def scenery (s : Snapshot) : Piece :=
  if s.hasChoices then
    let prompt := s.prompt.toList.filter (· ≠ "")
    let numbered := (s.choices.getD []).mapIdx fun i e => Text.decimal (i + 1) ++ ". " ++ e.text
    .lines ("--- Choice ---" :: prompt ++ numbered ++ [""])
  else .lines [s.speaker ++ ":", s.line, ""]

/-- What is shown about the state of the run. -/
def debugView {σ : Type} (p : Player σ) : Piece :=
  let kind := (p.position.event?.bind p.script.node?).map fun n => "kind=" ++ n.kind
  let image (slot : ImageSlot) := (p.stage.shown.image? slot).getD "-"
  let music :=
    match p.stage.shown.cue? with
    | some cue => "bgm=" ++ cue.path ++ " loop=" ++ if cue.looped then "true" else "false"
    | none => "bgm=-"
  .debug
    (["[debug]", "state=" ++ p.position.encode.write] ++ kind.toList ++
      ["background=" ++ image .background ++ " left=" ++ image .left ++ " right=" ++ image .right,
        music, ""])

/-- What stands before each input. -/
def view {σ : Type} (debug : Bool) (p : Player σ) : List Piece :=
  (p.snapshot?.map scenery).toList ++ (if debug then [debugView p] else []) ++
    [.prompt (if p.position.isPrompt then "Select (1-9):" else ">")]

/-- What an accepted action brought about: the messages of the console, then what went wrong. -/
def report (progress : Progress) (p : Player Console) : Piece × Player Console :=
  (.lines (p.stage.device.messages ++ progress.diagnostics.map ("[!] " ++ ·.message)),
    p.withDevice {})

/-- Acts on a line of input. -/
def respond (m : Media Console) (line : String) (p : Player Console) :
    Noted Note (Piece × Player Console) :=
  match command p.position.isPrompt (Text.trim line) with
  | .noChoice => return (.lines ["Invalid choice. Enter 1-9."], p)
  | .noCommand => return (.lines ["Press Enter to continue, or 'q' to quit."], p)
  | .act action => do
    match ← p.step m action with
    | (.ok progress, p) => return report progress p
    | (.error e, p) => return (.lines [e.message], p)

/-- Why a session broke off. -/
inductive Failure where
  /-- The run could not start. -/
  | refused (error : SignalError)
  /-- A line of input is not UTF-8. -/
  | notText
  deriving DecidableEq

/-- The failure in words. -/
def Failure.message : Failure → String
  | .refused error => error.message
  | .notText => "stream did not contain valid UTF-8"

/-- What a session came to: how the run ended, what was written, and the player at the end. -/
structure Outcome where
  result : Except Failure Ending
  pieces : List Piece
  player : Player Console

/-- The outcome with something written before. -/
def Outcome.behind (pieces : List Piece) (o : Outcome) : Outcome :=
  { o with pieces := pieces ++ o.pieces }

/-- Ends a session. -/
def close (p : Player Console) : Outcome :=
  let ending := p.ending.getD .cancelled
  ⟨.ok ending, [closing ending], p⟩

/-- Ends a session whose input has run out: the run is cancelled. -/
def giveUp (m : Media Console) (p : Player Console) : Noted Note Outcome := do
  match ← p.step m .cancel with
  | (.ok _, p) => return close p
  | (.error e, p) => return ⟨.error (.refused e), [], p⟩

/-- Goes on with the inputs that are left until the run ends. -/
def proceed (m : Media Console) (debug : Bool) (inputs : List Input) (p : Player Console) :
    Noted Note Outcome :=
  if p.position.isTerminated then return close p
  else
    match inputs with
    | [] => return (← giveUp m p).behind (view debug p)
    | none :: _ => return ⟨.error .notText, view debug p, p⟩
    | some line :: inputs => do
      let (piece, p') ← respond m line p
      return (← proceed m debug inputs p').behind (view debug p ++ [piece])

/-- Starts the run and takes input until the run ends. -/
def play (m : Media Console) (debug : Bool) (inputs : List Input) (p : Player Console) :
    Noted Note Outcome := do
  match ← p.step m .start with
  | (.error e, p) => return ⟨.error (.refused e), [banner], p⟩
  | (.ok progress, p) =>
    let (piece, p) := report progress p
    return (← proceed m debug inputs p).behind [banner, piece]

end Session

end Narrative
