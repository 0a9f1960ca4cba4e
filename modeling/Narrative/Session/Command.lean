import Narrative.Player.Signal
import Narrative.Text.Blank

/-!
# Input of a session

What the lines mean that somebody types: nothing at all to go on, a number to choose, `q` to quit.
-/

namespace Narrative.Session

/-- What a line of input asks for. -/
inductive Command where
  | act (action : Action)
  /-- A choice is awaited, and this is none. -/
  | noChoice
  /-- No choice is awaited, and this is neither going on nor quitting. -/
  | noCommand
  deriving DecidableEq

/-- The place of an option that is chosen by number: nine numbers can be typed. -/
def choiceIndex? (line : String) : Option Nat :=
  match Text.numeral? line with
  | some n => if 1 ≤ n ∧ n ≤ 9 then some (n - 1) else none
  | none => none

/-- The command in a line without blanks at its ends. -/
def command (isPrompt : Bool) (line : String) : Command :=
  if line = "q" then .act .cancel
  else if isPrompt then
    match choiceIndex? line with
    | some index => .act (.chooseNth index)
    | none => .noChoice
  else if line = "" then .act .advance
  else .noCommand

/-- The lines of some bytes, each up to its line end. -/
def splitLines : List UInt8 → List (List UInt8)
  | [] => []
  | b :: bs =>
    if b = 10 then [b] :: splitLines bs
    else
      match splitLines bs with
      | [] => [[b]]
      | line :: lines => (b :: line) :: lines

/-- A line of input, or nothing where it is not UTF-8. -/
abbrev Input := Option String

/-- The lines of some bytes as input. -/
def inputs (bytes : ByteArray) : List Input :=
  (splitLines bytes.toList).map fun line => String.fromUTF8? ⟨line.toArray⟩

end Narrative.Session
