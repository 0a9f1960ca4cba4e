import Narrative.Script.Journey

/-!
# Findings

What can be wrong with a script, how much it matters, and how it is put into words.
-/

namespace Narrative

/-- An error stops a run; a warning does not. -/
inductive Severity where
  | warning
  | error
  deriving DecidableEq

/-- The severity as it stands in front of a finding. -/
def Severity.name : Severity → String
  | .warning => "warning"
  | .error => "error"

/-- What is wrong with a script or with one of its events. -/
inductive Problem where
  | noEvents
  | malformed (reason : String)
  | noLines
  | undefinedNext (next : String)
  | noOptions
  | noBranch (option : String)
  | undefinedTarget (option target : String)
  | unmatchedBranch (branch : String)
  /-- A cycle of dialogues without lines; the keys in the order in which each leads to the next. -/
  | linelessCycle (first : String) (rest : List String)
  | neverReached
  deriving DecidableEq

/-- A problem is an error exactly if a run that comes to it breaks off. -/
def Problem.severity : Problem → Severity
  | .noEvents | .noLines | .unmatchedBranch _ | .neverReached => .warning
  | .malformed _ | .undefinedNext _ | .noOptions | .noBranch _ | .undefinedTarget .. |
    .linelessCycle .. => .error

/-- The problem in words. -/
def Problem.message : Problem → String
  | .noEvents => "script has no events"
  | .malformed reason => reason
  | .noLines => "dialogue has no lines and is skipped"
  | .undefinedNext next => "'next' names undefined event '" ++ next ++ "'"
  | .noOptions => "choice offers no options"
  | .noBranch option => "option '" ++ option ++ "' has no branch"
  | .undefinedTarget option target =>
    "option '" ++ option ++ "' branches to undefined event '" ++ target ++ "'"
  | .unmatchedBranch branch => "branch '" ++ branch ++ "' matches no option"
  | .linelessCycle first rest =>
    "events without lines form a cycle: " ++ " -> ".intercalate (first :: rest ++ [first])
  | .neverReached => "event is never reached"

/-- A problem in words, at an event or at the script as a whole. -/
structure Finding where
  severity : Severity
  event : Option String
  message : String
  deriving DecidableEq

/-- The finding of a problem. -/
def Finding.of (event : Option String) (p : Problem) : Finding :=
  ⟨p.severity, event, p.message⟩

/-- The line that shows a finding. -/
def Finding.render (f : Finding) : String :=
  match f.event with
  | some event => f.severity.name ++ ": [" ++ event ++ "] " ++ f.message
  | none => f.severity.name ++ ": " ++ f.message

end Narrative
