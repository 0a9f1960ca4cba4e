/-!
# What a session writes

A session writes pieces of text: what everybody sees, what is there for debugging, and prompts.
-/

namespace Narrative.Session

/-- A piece of output. -/
inductive Piece where
  /-- Lines for the player. -/
  | lines (texts : List String)
  /-- Lines about the state of the run. -/
  | debug (texts : List String)
  /-- What stands in front of the cursor while input is awaited. -/
  | prompt (text : String)
  deriving DecidableEq

/-- Each text on a line of its own. -/
def onLines (texts : List String) : String := String.join (texts.map (· ++ "\n"))

/-- The piece as text; the cursor stands one space behind a prompt. -/
def Piece.render : Piece → String
  | .lines texts => onLines texts
  | .debug texts => onLines texts
  | .prompt text => text ++ " "

/-- All that was written. -/
def render (pieces : List Piece) : String := String.join (pieces.map Piece.render)

end Narrative.Session
