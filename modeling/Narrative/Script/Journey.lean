import Narrative.Script.Basic
import Narrative.Script.Fresh

/-!
# Journeys

Entering an event leads on through dialogues without lines until the run comes to rest: at a line,
at a choice, behind the last event, or at a defect of the script.  A dialogue leads to the event
that it names, else to the one behind it in order.  The journey from a key lists the keys that are
passed over and says where it ends; it ends because no key is passed twice.
-/

namespace Narrative

/-- What makes a run break off at an event. -/
inductive Defect where
  | undefined
  | malformed (reason : String)
  | noOptions
  | lineless
  | noTarget (key : String)
  | noDialogue
  deriving DecidableEq

/-- The defect in words. -/
def Defect.reason : Defect → String
  | .undefined => "event is not defined in the script"
  | .malformed reason => reason
  | .noOptions => "choice offers no options"
  | .lineless => "events without lines form a cycle"
  | .noTarget key => "choice '" ++ key ++ "' has no branch target"
  | .noDialogue => "event is no longer a dialogue"

/-- Where a journey ends. -/
inductive Arrival where
  /-- At the first line of a dialogue. -/
  | line (event : String) (first : Line)
  /-- At a choice that has options. -/
  | prompt (event : String) (choice : Choice)
  /-- Behind a dialogue without lines that nothing comes after. -/
  | finished (last : String)
  | broken (event : String) (defect : Defect)
  deriving DecidableEq

/-- The event that a journey ends at. -/
def Arrival.event : Arrival → String
  | .line event _ => event
  | .prompt event _ => event
  | .finished last => last
  | .broken event _ => event

/-- The keys that are passed over, and the arrival. -/
structure Journey where
  passed : List String
  arrival : Arrival
  deriving DecidableEq

/-- The journey that passes over a key first. -/
def Journey.behind (key : String) (j : Journey) : Journey := ⟨key :: j.passed, j.arrival⟩

/-- The keys that a journey touches: those passed over, then the one that it ends at. -/
def Journey.touched (j : Journey) : List String := j.passed ++ [j.arrival.event]

namespace Script

/-- The event that comes after a dialogue. -/
def successor? (s : Script) (key : String) (d : Dialogue) : Option String :=
  d.next.or (s.after? key)

/-- An event either lets a run come to rest or passes it on. -/
inductive Landing where
  | rests (arrival : Arrival)
  | passes (next : Option String)

/-- What happens on landing at a key. -/
def landing (s : Script) (key : String) : Landing :=
  match s.node? key with
  | none => .rests (.broken key .undefined)
  | some (.malformed reason) => .rests (.broken key (.malformed reason))
  | some (.dialogue d) =>
    match d.lines with
    | [] => .passes (s.successor? key d)
    | first :: _ => .rests (.line key first)
  | some (.choice c) =>
    if c.options = [] then .rests (.broken key .noOptions) else .rests (.prompt key c)

theorem mem_keys_of_landing_passes {s : Script} {key : String} {next : Option String}
    (h : s.landing key = .passes next) : key ∈ s.nodes.keys := by
  unfold landing at h
  cases hn : s.node? key with
  | none => simp [hn] at h
  | some n => exact Keyed.mem_keys_of_get? hn

/-- The journey from a key, when some keys have been passed over already. -/
def journeyFrom (s : Script) (passed : List String) (key : String) : Journey :=
  match h : s.landing key with
  | .rests arrival => ⟨[], arrival⟩
  | .passes next =>
    if hp : key ∈ passed then ⟨[key], .broken key .lineless⟩
    else
      match next with
      | none => ⟨[key], .finished key⟩
      | some k =>
        have := fresh_cons_lt (mem_keys_of_landing_passes h) hp
        (s.journeyFrom (key :: passed) k).behind key
termination_by fresh s.nodes.keys passed

/-- The journey from a key. -/
def journey (s : Script) (key : String) : Journey := s.journeyFrom [] key

end Script

end Narrative
