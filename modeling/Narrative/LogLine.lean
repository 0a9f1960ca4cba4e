import Narrative.Noted

/-!
# Log lines

What the library has to say about its own work, by level.
-/

namespace Narrative

/-- How much a log line matters, from most to least. -/
inductive Level where
  | error
  | warn
  | info
  | debug
  | trace
  deriving DecidableEq

/-- The level as it stands in front of a line. -/
def Level.name : Level → String
  | .error => "ERROR"
  | .warn => "WARN"
  | .info => "INFO"
  | .debug => "DEBUG"
  | .trace => "TRACE"

/-- One line of the log. -/
structure LogLine where
  level : Level
  text : String
  deriving DecidableEq

/-- The line with its level in front. -/
def LogLine.render (l : LogLine) : String := l.level.name ++ " " ++ l.text

/-- A value and the log lines written on the way to it. -/
abbrev Logged (α : Type) := Noted LogLine α

/-- Writes one log line. -/
def log (level : Level) (text : String) : Logged Unit := Noted.note ⟨level, text⟩

end Narrative
