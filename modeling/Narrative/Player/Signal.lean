import Narrative.Text.Numeral

/-!
# Signals

What a run can be told to do, and why it may refuse.
-/

namespace Narrative

/-- A signal that can be sent to a run from outside. -/
inductive Signal where
  | advance
  | choose (key : String)
  | cancel
  deriving DecidableEq

/-- What a run can be told to do. -/
inductive Action where
  | start
  | advance
  | choose (key : String)
  | chooseNth (index : Nat)
  | cancel
  deriving DecidableEq

/-- The action that a signal stands for. -/
def Signal.action : Signal → Action
  | .advance => .advance
  | .choose key => .choose key
  | .cancel => .cancel

/-- Why a run refuses an action. -/
inductive SignalError where
  | alreadyStarted
  | notStarted
  | terminated
  | awaitingChoice (event : String)
  | noPendingChoice
  | unknownChoice (event key : String)
  | indexOutOfRange (event : String) (index count : Nat)
  deriving DecidableEq

/-- The refusal in words. -/
def SignalError.message : SignalError → String
  | .alreadyStarted => "interpreter has already started"
  | .notStarted => "interpreter has not started"
  | .terminated => "interpreter has terminated"
  | .awaitingChoice event => "event '" ++ event ++ "' is waiting for a choice"
  | .noPendingChoice => "no choice is pending"
  | .unknownChoice event key => "event '" ++ event ++ "' has no choice '" ++ key ++ "'"
  | .indexOutOfRange event index count =>
    "choice index " ++ Text.decimal index ++ " is out of range for event '" ++ event ++ "' (" ++
      Text.decimal count ++ " options)"

end Narrative
