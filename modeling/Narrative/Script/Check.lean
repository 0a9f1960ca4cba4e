import Narrative.Script.Cycle
import Narrative.Script.Finding
import Narrative.Script.Reach
import Narrative.Text.Numeral

/-!
# Checking a script

The problems of a script, found without running it: those of each event in order, then the cycles
without lines, then the events that are never reached.
-/

namespace Narrative

namespace Script

/-- What is wrong with a dialogue. -/
def dialogueProblems (s : Script) (d : Dialogue) : List Problem :=
  (if d.lines.isEmpty then [.noLines] else []) ++
    match d.next with
    | some next => if s.defines next then [] else [.undefinedNext next]
    | none => []

/-- What is wrong with an option. -/
def optionProblems (s : Script) (o : ChoiceOption) : List Problem :=
  match o.target with
  | none => [.noBranch o.key]
  | some target => if s.defines target then [] else [.undefinedTarget o.key target]

/-- What is wrong with a choice. -/
def choiceProblems (s : Script) (c : Choice) : List Problem :=
  (if c.options.isEmpty then [.noOptions] else []) ++ c.options.flatMap s.optionProblems ++
    c.unmatched.map .unmatchedBranch

/-- What is wrong with an event. -/
def nodeProblems (s : Script) : Node → List Problem
  | .malformed reason => [.malformed reason]
  | .dialogue d => s.dialogueProblems d
  | .choice c => s.choiceProblems c

/-- The cycle problem at the first key of each cycle. -/
def cycleProblems (s : Script) : List (String × Problem) :=
  s.linelessCycles.filterMap fun
    | [] => none
    | first :: rest => some (first, .linelessCycle first rest)

/-- The keys that no run lands on, in order. -/
def unreached (s : Script) : List String :=
  let reached := s.reachable
  s.order.filter fun key => !reached.contains key

/-- The problems of a script, each with the event that it is about. -/
def problems (s : Script) : List (Option String × Problem) :=
  if s.order.isEmpty then [(none, .noEvents)]
  else
    s.entries.flatMap (fun e => (s.nodeProblems e.2).map (some e.1, ·)) ++
      s.cycleProblems.map (fun p => (some p.1, p.2)) ++
      s.unreached.map (fun key => (some key, .neverReached))

/-- The findings about a script. -/
def check (s : Script) : List Finding := s.problems.map fun p => .of p.1 p.2

end Script

/-- What a check of a script comes to. -/
structure Report where
  findings : List Finding
  deriving DecidableEq

namespace Report

/-- How many findings are errors. -/
def errors (r : Report) : Nat := r.findings.countP fun f => f.severity = .error

/-- How many findings are warnings. -/
def warnings (r : Report) : Nat := r.findings.countP fun f => f.severity = .warning

/-- Nothing that would stop a run was found. -/
def isValid (r : Report) : Bool := !r.findings.any fun f => f.severity = .error

/-- The lines of a report on a script of `size` events: the findings, then a summary. -/
def lines (r : Report) (size : Nat) : List String :=
  r.findings.map Finding.render ++
    [if r.errors = 0 ∧ r.warnings = 0 then
      "OK: " ++ Text.decimal size ++ " events, no problems found"
    else Text.decimal r.errors ++ " error(s), " ++ Text.decimal r.warnings ++ " warning(s)"]

end Report

/-- The report on a script. -/
def Script.report (s : Script) : Report := ⟨s.check⟩

end Narrative
